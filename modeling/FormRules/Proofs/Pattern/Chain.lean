import FormRules.Proofs.Pattern.Anchors

/-!
# Room for chains

A chain is a sequence of ASCII characters and conditions on places.  Neighbouring characters are
joined in its shape, but they still take a state each, as every condition does.  So it is known
exactly how long a chain between the anchors may be: `fits_anchored_seqs`.
-/

namespace FormRules.Pattern

open FormRules.Text

variable {c : Char} {code : Nat}

/-! ### Taking room -/

namespace Room

theorem take_bind_take (states links states' links' : Nat) (room : Room) :
    (room.take states links).bind (take states' links') =
      room.take (states + states') (links + links') := by
  by_cases hfirst : (Room.mk (room.states + states) (room.links + links)).bytes ≤ limit
  · simp only [take, if_pos hfirst, Option.bind_some, Nat.add_assoc]
  · -- what is too much already is too much with more
    have hboth :
        ¬(Room.mk (room.states + (states + states')) (room.links + (links + links'))).bytes ≤
          limit := by
      simp only [bytes, stateBytes] at hfirst ⊢
      omega
    simp only [take, if_neg hfirst, if_neg hboth, Option.bind_none]

theorem isSome_take_untouched (states : Nat) :
    (untouched.take states 0).isSome = true ↔ stateBytes * states ≤ limit := by
  by_cases hroom : stateBytes * states ≤ limit
  · simp [take, bytes, untouched, hroom]
  · simp [take, bytes, untouched, hroom]

end Room

/-! ### Single characters -/

namespace CharSet

theorem hasCode_single : (single c).hasCode code = true ↔ code = c.toNat := by
  rw [hasCode, Bool.and_eq_true, mem_single]
  constructor
  · intro h
    obtain ⟨hvalid, hchar⟩ := h
    rw [← hchar, Char.ofNat, dif_pos (of_decide_eq_true hvalid)]
    rfl
  · intro h
    subst h
    exact ⟨decide_eq_true c.valid, Char.ofNat_toNat c⟩

theorem collect_append_of_not_hasCode {set : CharSet} {codes : List Nat}
    (h : ∀ code ∈ codes, set.hasCode code = false) (rest : List Nat) :
    set.collect none (codes ++ rest) = set.collect none rest := by
  induction codes with
  | nil => rfl
  | cons code codes ih =>
    obtain ⟨hcode, hcodes⟩ := List.forall_mem_cons.1 h
    rw [List.cons_append, collect, hcode, if_neg Bool.false_ne_true, ih hcodes]

theorem ranges_single (h : isAscii c = true) : (single c).ranges = [(c.toNat, c.toNat)] := by
  have hlt : c.toNat < 128 := of_decide_eq_true h
  have hother {code : Nat} (hne : code ≠ c.toNat) : (single c).hasCode code = false :=
    Bool.eq_false_iff.2 fun hcode => hne (hasCode_single.1 hcode)
  -- the places before the character, its own, the one behind it and all others
  have hplaces : (single c).places = List.range' 0 c.toNat ++
      c.toNat :: (c.toNat + 1) :: List.range' (c.toNat + 2) (127 - c.toNat) := by
    have hrange : List.range' 0 0x81 =
        List.range' 0 c.toNat ++ List.range' c.toNat (127 - c.toNat + 1 + 1) := by
      have hcount : 0x81 = c.toNat + (127 - c.toNat + 1 + 1) := by omega
      rw [hcount, ← List.range'_append_1, Nat.zero_add]
    rw [places, single, isPlain, h, if_pos rfl, List.range_eq_range', hrange, List.range'_succ,
      List.range'_succ]
  have hbehind : (single c).collect none (List.range' (c.toNat + 2) (127 - c.toNat)) = [] := by
    have hnone : ∀ code ∈ List.range' (c.toNat + 2) (127 - c.toNat),
        (single c).hasCode code = false := by
      intro code hcode
      have hle := (List.mem_range'_1.1 hcode).1
      exact hother (by omega)
    have hall := collect_append_of_not_hasCode hnone []
    rwa [List.append_nil] at hall
  rw [ranges, hplaces, collect_append_of_not_hasCode fun code hcode => hother ?_, collect,
    if_pos (hasCode_single.2 rfl), collect, hother (Nat.succ_ne_self c.toNat),
    if_neg Bool.false_ne_true, hbehind, Nat.add_sub_cancel]
  have hlt := (List.mem_range'_1.1 hcode).2
  omega

end CharSet

/-- An ASCII character or a condition on a place. -/
inductive Regex.IsLink : Regex → Prop
  | char (c : Char) (h : isAscii c = true) : IsLink (.char c)
  | look (l : Look) : IsLink (.look l)

namespace Shape

/-! ### Shapes -/

/-- A sequence of literals and conditions, with the number of bytes and conditions in it. -/
inductive IsChain : Shape → Nat → Prop
  | literal (text : List Char) : IsChain (.literal text) (byteCount text)
  | look (l : Look) : IsChain (.look l) 1
  | seq (a b : Shape) (m n : Nat) (ha : IsChain a m) (hb : IsChain b n) :
    IsChain (.seq a b) (m + n)

variable {a s : Shape} {l : Look} {m n : Nat}

theorem byteCount_append (u v : List Char) : byteCount (u ++ v) = byteCount u + byteCount v := by
  induction u with
  | nil => exact (Nat.zero_add _).symm
  | cons c u ih =>
    simp only [byteCount, List.cons_append, List.map_cons, List.foldr_cons] at ih ⊢
    rw [ih, Nat.add_assoc]

theorem IsChain.cons (ha : IsChain a m) (hs : IsChain s n) : IsChain (cons a s) (m + n) := by
  fun_cases Shape.cons a s with
  | case1 => cases ha
  | case2 => cases hs
  | case3 u v =>
    cases ha
    cases hs
    rw [← byteCount_append]
    exact .literal _
  | case4 u v s =>
    cases ha
    cases hs with
    | seq _ _ k n hv hs =>
      cases hv
      rw [← Nat.add_assoc, ← byteCount_append]
      exact .seq _ _ _ _ (.literal _) hs
  | case5 => exact .seq _ _ _ _ ha hs

theorem IsChain.append (ha : IsChain a m) (hs : IsChain s n) : IsChain (append a s) (m + n) := by
  induction ha with
  | literal text => exact IsChain.cons (.literal text) hs
  | look l => exact IsChain.cons (.look l) hs
  | seq a b m k ha hb _ ih =>
    rw [Nat.add_assoc]
    exact ha.cons ih

theorem cons_look (hs : IsChain s n) : cons (.look l) s = .seq (.look l) s := by
  cases hs <;> rfl

theorem isBoundTo_cons (hs : s.isBoundTo l false = true) : (cons a s).isBoundTo l false = true := by
  fun_cases Shape.cons a s with
  | case1 => exact hs
  | case2 => cases hs
  | case3 => cases hs
  | case4 => exact hs
  | case5 => exact Bool.or_eq_true_iff.2 (Or.inl hs)

theorem isBoundTo_append (hs : s.isBoundTo l false = true) :
    (append a s).isBoundTo l false = true := by
  induction a with
  | seq a b iha ihb => exact isBoundTo_cons ihb
  | _ => exact isBoundTo_cons hs

/-! ### The shape of a chain -/

theorem ofRegex_seq (a b : Regex) : ofRegex (.seq a b) = append (ofRegex a) (ofRegex b) := rfl

theorem ofRegex_anchored (r : Regex) : ofRegex r.anchored =
    append (.look .textStart) (append (ofRegex r) (.look .textEnd)) := rfl

theorem ofRegex_char (h : isAscii c = true) : ofRegex (.char c) = .literal [c] := by
  have hranges : ofRegex (.char c) = ofRanges (CharSet.single c).ranges := rfl
  have htidy : tidyRanges [(c.toNat, c.toNat)] = [(c.toNat, c.toNat)] := by
    rw [tidyRanges, List.mergeSort_singleton]
    rfl
  rw [hranges, CharSet.ranges_single h, ofRanges, htidy]
  simp only [if_true, Char.ofNat_toNat]

theorem isChain_ofRegex {r : Regex} (h : r.IsLink) : IsChain (ofRegex r) 1 := by
  cases h with
  | char c h =>
    have hle : c.val ≤ 127 := Nat.le_of_lt_succ (of_decide_eq_true h)
    have hone : byteCount [c] = 1 := Char.utf8Size_eq_one_iff.2 hle
    rw [ofRegex_char h, ← hone]
    exact .literal [c]
  | look l => exact .look l

variable {links : List Regex}

/-- The number of links of a chain is that of the bytes and conditions in its shape. -/
theorem isChain_seqs (h : ∀ r ∈ links, r.IsLink) (hne : links ≠ []) :
    IsChain (ofRegex (.seqs links)) links.length := by
  fun_induction Regex.seqs links with
  | case1 => exact absurd rfl hne
  | case2 r => exact isChain_ofRegex (h r List.mem_cons_self)
  | case3 r rest hrest ih =>
    obtain ⟨hr, hlinks⟩ := List.forall_mem_cons.1 h
    rw [ofRegex_seq, List.length_cons, Nat.add_comm]
    exact (isChain_ofRegex hr).append (ih hlinks hrest)

theorem isChain_anchored (h : ∀ r ∈ links, r.IsLink) :
    IsChain (append (ofRegex (.seqs links)) (.look .textEnd)) (links.length + 1) := by
  cases links with
  | nil => exact .look .textEnd
  | cons r links => exact (isChain_seqs h (List.cons_ne_nil r links)).append (.look .textEnd)

/-! ### Room for a chain -/

theorem bind_join_alone (room : Option Room) : room.bind Rank.alone.join = room := by
  cases room <;> rfl

/-- Every byte and every condition takes one state, in whatever direction the automaton reads. -/
theorem IsChain.take (h : IsChain s n) (direction : Direction) :
    s.take direction .alone = Room.take n 0 := by
  induction h with
  | literal text => exact funext fun room => bind_join_alone _
  | look l => exact funext fun room => bind_join_alone _
  | seq a b m n ha hb iha ihb =>
    funext room
    cases direction with
    | forward => rw [Shape.take, bind_join_alone, iha, ihb, Room.take_bind_take]
    | backward => rw [Shape.take, bind_join_alone, iha, ihb, Room.take_bind_take, Nat.add_comm n]

/-- Around a chain that starts at the start of the text stand the way in, the two ends of the whole
match and a last state. -/
theorem takeWhole_forward (h : IsChain s n) (hbound : s.isBoundTo .textStart true = true) :
    s.takeWhole .forward = Room.untouched.take (n + 4) 0 := by
  have hgroup : (group 0 s).take .forward .alone = Room.take (n + 2) 0 := by
    funext room
    rw [Shape.take, bind_join_alone, h.take, Room.take_bind_take, Room.take_bind_take]
    congr 1
    omega
  simp only [takeWhole, hbound, if_true, hgroup, Room.take_bind_take]
  congr 1
  omega

theorem takeWhole_backward (h : IsChain s n) (hbound : s.isBoundTo .textEnd false = true) :
    s.takeWhole .backward = Room.untouched.take (n + 2) 0 := by
  have hgroup : (group 0 s).take .backward .alone = Room.take n 0 := by
    funext room
    rw [Shape.take, bind_join_alone, h.take]
  simp only [takeWhole, hbound, if_true, hgroup, Room.take_bind_take]
  congr 1
  omega

theorem fits_chain (h : ∀ r ∈ links, r.IsLink) :
    (ofRegex (Regex.seqs links).anchored).fits = true ↔
      Room.stateBytes * (links.length + 6) ≤ Room.limit := by
  have hbody := isChain_anchored h
  have hend : (append (ofRegex (.seqs links)) (.look .textEnd)).isBoundTo .textEnd false = true :=
    isBoundTo_append rfl
  have hshape : ofRegex (Regex.seqs links).anchored =
      .seq (.look .textStart) (append (ofRegex (.seqs links)) (.look .textEnd)) :=
    (ofRegex_anchored _).trans (cons_look hbody)
  have hchain := IsChain.seq _ _ _ _ (.look .textStart) hbody
  have hforward := takeWhole_forward hchain rfl
  have hbackward := takeWhole_backward hchain (Bool.or_eq_true_iff.2 (Or.inl hend))
  rw [hshape, fits, Bool.and_eq_true, hforward, hbackward, Room.isSome_take_untouched,
    Room.isSome_take_untouched]
  simp only [Room.stateBytes]
  omega

end Shape

namespace Regex

variable {links : List Regex}

theorem roomBound_of_isLink {r : Regex} (h : r.IsLink) : Room.stateBytes ≤ r.roomBound := by
  cases h with
  | char c h =>
    have hbound : (char c).roomBound = 400 := if_pos rfl
    rw [hbound]
    decide
  | look l => exact Nat.le_refl _

theorem le_roomBound_seqs (h : ∀ r ∈ links, r.IsLink) :
    Room.stateBytes * links.length ≤ (Regex.seqs links).roomBound := by
  fun_induction Regex.seqs links with
  | case1 => exact Nat.zero_le _
  | case2 r =>
    rw [List.length_singleton, Nat.mul_one]
    exact roomBound_of_isLink (h r List.mem_cons_self)
  | case3 r rest hrest ih =>
    obtain ⟨hr, hlinks⟩ := List.forall_mem_cons.1 h
    rw [List.length_cons, Nat.mul_succ, Nat.add_comm]
    exact Nat.add_le_add (roomBound_of_isLink hr) (ih hlinks)

/-- Between the anchors there is room for a chain exactly if there is a state for each of its links,
the two anchors, the two ends of the match, the way in and the end. -/
theorem fits_anchored_seqs (h : ∀ r ∈ links, r.IsLink) :
    (Regex.seqs links).anchored.fits = true ↔
      Room.stateBytes * (links.length + 6) ≤ Room.limit := by
  rw [fits, Bool.or_eq_true, decide_eq_true_eq, Shape.fits_chain h]
  constructor
  · intro hfits
    -- the bound that is tried first counts more than the states
    rcases hfits with hbound | hshape
    · have hle := le_roomBound_seqs h
      have hanchored : (Regex.seqs links).anchored.roomBound =
          32 + ((Regex.seqs links).roomBound + 32) := rfl
      rw [hanchored] at hbound
      simp only [Room.stateBytes] at hle ⊢
      omega
    · exact hshape
  · exact Or.inr

end Regex

end FormRules.Pattern
