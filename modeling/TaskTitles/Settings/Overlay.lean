import TaskTitles.Value.Basic

/-!
# Laying tables over each other

A table laid over another one replaces what both have and adds what only it has.  Where both have a
table behind one key, these are laid over each other in turn.
-/

namespace TaskTitles.Value

mutual

def overlay (lower : Fields) : (upper : List (Text × Value)) → Fields
  | [] => lower
  | (key, value) :: rest =>
    overlay (Fields.set key (overlayOn (Fields.get? lower key) value) lower) rest

def overlayOn (lower : Option Value) : (upper : Value) → Value
  | table upper =>
    match lower with
    | some (table lower) => table (overlay lower upper)
    | _ => table upper
  | upper => upper

end

end TaskTitles.Value
