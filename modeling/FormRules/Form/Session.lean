import FormRules.Form.OfOutline

/-!
# Sessions

A session works on a form and keeps a copy of one aside.  A command makes the form anew, adds
fields to it, changes one of its fields, or moves a form between the two places.  A command that
cannot be carried out leaves the session as it is.

A command is a call of `new`, `collect`, `add_field`, `add_fields`, `extend`, of a setter through
`get_field_mut`, of `into_form` or `into_form_strict`, or a clone that is kept or put back.
-/

namespace FormRules

inductive Command where
  | clear
  | collect (fields : List Field)
  | add (field : Field)
  | addAll (fields : List Field)
  | append (fields : List Field)
  | edit (key : String) (e : FieldEdit)
  | save
  | restore
  | load (outline : FormOutline)
  | loadDistinct (outline : FormOutline)

/-- The form that is worked on, and the one that was saved. -/
structure Session where
  form : Form := .empty
  saved : Form := .empty

namespace Session

def step (session : Session) : Command → Session
  | .clear => { session with form := .empty }
  | .collect fields => { session with form := .ofFields fields }
  | .add field => { session with form := (session.form.add field).1 }
  | .addAll fields => { session with form := (session.form.addAll fields).1 }
  | .append fields => { session with form := session.form.append fields }
  | .edit key e => match session.form.edit? key e with
    | some form => { session with form }
    | none => session
  | .save => { session with saved := session.form }
  | .restore => { session with form := session.saved }
  | .load outline => match outline.build with
    | .ok form => { session with form }
    | .error _ => session
  | .loadDistinct outline => match outline.buildDistinct with
    | .ok form => { session with form }
    | .error _ => session

/-- The session after commands that are carried out one after the other. -/
def run (commands : List Command) : Session := commands.foldl step {}

end Session

end FormRules
