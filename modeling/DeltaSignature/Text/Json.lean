/-!
# Printing JSON

Values are printed over several lines, two spaces deeper per level, with their members in the
order given.
-/

namespace DeltaSignature

/-- A value of the kinds that reports hold. -/
inductive JsonValue where
  | number (value : Nat)
  | string (text : String)
  | array (items : List JsonValue)
  | object (members : List (String × JsonValue))

namespace JsonValue

/-- A character as it stands in a quoted text. -/
def escape (char : Char) : String :=
  match char with
  | '"' => "\\\""
  | '\\' => "\\\\"
  | '\x08' => "\\b"
  | '\x0c' => "\\f"
  | '\n' => "\\n"
  | '\r' => "\\r"
  | '\t' => "\\t"
  | _ =>
    if char.toNat < 0x20 then
      "\\u" ++ String.ofList ((Nat.toDigits 16 char.toNat).leftpad 4 '0')
    else char.toString

def quote (text : String) : String :=
  "\"" ++ String.join (text.toList.map escape) ++ "\""

def indent (depth : Nat) : String :=
  String.ofList (List.replicate (2 * depth) ' ')

/-- Lines between brackets, or the brackets alone if there are none. -/
def enclose (opening closing : String) (depth : Nat) : List String → String
  | [] => opening ++ closing
  | lines =>
    let inner := ",\n".intercalate (lines.map (indent (depth + 1) ++ ·))
    opening ++ "\n" ++ inner ++ "\n" ++ indent depth ++ closing

mutual

/-- A value whose first line starts at some depth. -/
def renderAt (depth : Nat) : JsonValue → String
  | number value => toString value
  | string text => quote text
  | array items => enclose "[" "]" depth (renderItems (depth + 1) items)
  | object members => enclose "\x7b" "\x7d" depth (renderMembers (depth + 1) members)

def renderItems (depth : Nat) : List JsonValue → List String
  | [] => []
  | item :: items => renderAt depth item :: renderItems depth items

def renderMembers (depth : Nat) : List (String × JsonValue) → List String
  | [] => []
  | (name, value) :: members =>
    (quote name ++ ": " ++ renderAt depth value) :: renderMembers depth members

end

def render (value : JsonValue) : String :=
  value.renderAt 0

end JsonValue

end DeltaSignature
