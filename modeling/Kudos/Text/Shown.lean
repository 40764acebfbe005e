import Kudos.Text.Basic

/-!
# Shown values

The notation in which a structured value is shown to people: lists in brackets, fields with
their keys in braces, everything else as a word.
-/

namespace Kudos

/-- A value prepared to be shown. -/
inductive Shown where
  /-- A word shown as it is. -/
  | plain (t : Text)
  /-- A list. -/
  | list (items : List Shown)
  /-- Fields, each key as it is shown. -/
  | fields (pairs : List (Text × Shown))

namespace Shown

mutual

/-- The value as text. -/
def text : Shown → Text
  | plain t => t
  | list items => '[' :: itemsText items ++ [']']
  | fields pairs => '\x7b' :: fieldsText pairs ++ ['\x7d']

/-- The items of a list with commas between them. -/
def itemsText : List Shown → Text
  | [] => []
  | [v] => text v
  | v :: rest => text v ++ [',', ' '] ++ itemsText rest

/-- Fields with commas between them. -/
def fieldsText : List (Text × Shown) → Text
  | [] => []
  | [(k, v)] => k ++ [':', ' '] ++ text v
  | (k, v) :: rest => k ++ [':', ' '] ++ text v ++ [',', ' '] ++ fieldsText rest

end

end Shown

end Kudos
