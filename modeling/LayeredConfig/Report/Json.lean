import LayeredConfig.Text.Quoted

/-
  JSON text with one item a line. The fields of an object keep the order in which they are
  given.
-/

namespace LayeredConfig.Report

/-- A JSON document to be written. -/
inductive Json where
  | string (s : String)
  | bool (b : Bool)
  | int (n : Int)
  | array (items : List Json)
  | object (fields : List (String × Json))
  deriving Repr, Inhabited

namespace Json

/-- A line end and the indentation of a level. -/
def newline (level : Nat) : String := "\n" ++ String.ofList (List.replicate (2 * level) ' ')

/-- Lines between brackets, with a comma after every line but the last. -/
def bracket (level : Nat) (opening closing : String) (lines : List String) : String :=
  match lines with
  | [] => opening ++ closing
  | first :: rest =>
    rest.foldl (fun acc line => acc ++ "," ++ newline (level + 1) ++ line)
      (opening ++ newline (level + 1) ++ first) ++ newline level ++ closing

mutual

/-- The text of a document at a level of indentation. -/
def render (level : Nat) : Json → String
  | .string s => Text.jsonQuoted s
  | .bool b => if b then "true" else "false"
  | .int n => toString n
  | .array items => bracket level "[" "]" (renderItems (level + 1) items)
  | .object fields => bracket level "\x7b" "\x7d" (renderFields (level + 1) fields)

/-- The texts of several documents. -/
def renderItems (level : Nat) : List Json → List String
  | [] => []
  | x :: rest => x.render level :: renderItems level rest

/-- The texts of fields, each behind its key. -/
def renderFields (level : Nat) : List (String × Json) → List String
  | [] => []
  | (key, x) :: rest => (Text.jsonQuoted key ++ ": " ++ x.render level) :: renderFields level rest

end

/-- The text of a document and a line end. -/
def toText (x : Json) : String := x.render 0 ++ "\n"

end Json

end LayeredConfig.Report
