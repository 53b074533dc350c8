import FluentQuery.Json.Token

/-!
# Reading JSON

A value is read by a machine that takes one token at a time. Its state is the stack of arrays and
objects that are still open, and what may stand next. Each state has its own complaint about a
token that does not fit, and about the end of the text.
-/

namespace FluentQuery.Json

/-- An array or object that is still open, with what has been read of it. -/
inductive Frame where
  /-- An array, with its items so far, the newest first. -/
  | array (before : List Json)
  /-- An object that waits for the value of a key, with its entries so far. -/
  | entry (before : List (String × Json)) (key : String)

/-- What has been read, and what may stand next. -/
inductive Reading where
  /-- A value must stand next. -/
  | value (frames : List Frame)
  /-- An array has just been opened: an item or its end. -/
  | arrayStart (frames : List Frame)
  /-- After a comma in an array: an item. -/
  | nextItem (items : List Json) (frames : List Frame)
  /-- After an item: a comma or the end of the array. -/
  | itemEnd (items : List Json) (frames : List Frame)
  /-- An object has just been opened: a key or its end. -/
  | objectStart (frames : List Frame)
  /-- After a comma in an object: a key. -/
  | nextKey (entries : List (String × Json)) (frames : List Frame)
  /-- After a key: a colon. -/
  | colon (entries : List (String × Json)) (key : String) (frames : List Frame)
  /-- After an entry: a comma or the end of the object. -/
  | entryEnd (entries : List (String × Json)) (frames : List Frame)
  /-- The value is complete. -/
  | done (v : Json)

namespace Reading

/-- The number of arrays and objects that may be open at one time. -/
def depthLimit : Nat := 127

/-- A value is complete; it goes to the innermost array or object that is open. -/
def deliver (v : Json) : List Frame → Reading
  | [] => .done v
  | .array items :: frames => .itemEnd (v :: items) frames
  | .entry entries key :: frames => .entryEnd (Json.set key v entries) frames

/-- A token where a value must stand. -/
def begin (frames : List Frame) : Token → Except Fault Reading
  | .null => .ok (deliver .null frames)
  | .bool b => .ok (deliver (.bool b) frames)
  | .number n => .ok (deliver (.number n) frames)
  | .text s => .ok (deliver (.string s) frames)
  | .openArray => if frames.length < depthLimit then .ok (.arrayStart frames) else .error .tooDeep
  | .openObject => if frames.length < depthLimit then .ok (.objectStart frames) else .error .tooDeep
  | .brokenText f | .broken f => .error f
  | .closeArray | .closeObject | .comma | .colon | .stray => .error .expectedValue

/-- A token where a key must stand. -/
def beginKey (entries : List (String × Json)) (frames : List Frame) : Token → Except Fault Reading
  | .text key => .ok (.colon entries key frames)
  | .brokenText f => .error f
  | _ => .error .keyNotString

/-- One token. -/
def step : Reading → Token → Except Fault Reading
  | .value frames, t => begin frames t
  | .arrayStart frames, .closeArray => .ok (deliver (.array []) frames)
  | .arrayStart frames, t => begin (.array [] :: frames) t
  | .nextItem _ _, .closeArray => .error .trailingComma
  | .nextItem items frames, t => begin (.array items :: frames) t
  | .itemEnd items frames, .comma => .ok (.nextItem items frames)
  | .itemEnd items frames, .closeArray => .ok (deliver (.array items.reverse) frames)
  | .itemEnd _ _, _ => .error .expectedItemEnd
  | .objectStart frames, .closeObject => .ok (deliver (.object []) frames)
  | .objectStart frames, t => beginKey [] frames t
  | .nextKey _ _, .closeObject => .error .trailingComma
  | .nextKey entries frames, t => beginKey entries frames t
  | .colon entries key frames, .colon => .ok (.value (.entry entries key :: frames))
  | .colon _ _ _, _ => .error .expectedColon
  | .entryEnd entries frames, .comma => .ok (.nextKey entries frames)
  | .entryEnd entries frames, .closeObject => .ok (deliver (.object entries) frames)
  | .entryEnd _ _, _ => .error .expectedEntryEnd
  | .done _, _ => .error .trailingText

/-- The end of the text. -/
def finish : Reading → Except Fault Json
  | .done v => .ok v
  | .value _ | .nextItem _ _ | .nextKey _ _ => .error .endInValue
  | .arrayStart _ | .itemEnd _ _ => .error .endInArray
  | .objectStart _ | .colon _ _ _ | .entryEnd _ _ => .error .endInObject

end Reading

/-- The value that a list of tokens stands for. -/
def ofTokens (tokens : List Token) : Except Fault Json := do
  let reading ← tokens.foldlM Reading.step (.value [])
  reading.finish

/-- The value that a text stands for. -/
def read (text : String) : Except Fault Json := ofTokens (Token.ofText text.toList)

end FluentQuery.Json
