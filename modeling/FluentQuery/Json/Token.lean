import FluentQuery.Json.Numeral

/-!
# JSON tokens

The words of a JSON text. A text is split up to its first malformed token, which is kept as a token
of its own: whether it is at fault, or already stands in the wrong place, depends on what was read
before it.
-/

namespace FluentQuery.Json

/-- One word of a JSON text. -/
inductive Token where
  | openArray
  | closeArray
  | openObject
  | closeObject
  | comma
  | colon
  | null
  | bool (b : Bool)
  | number (n : Number)
  | text (s : String)
  /-- A string with a fault in it. -/
  | brokenText (fault : Fault)
  /-- A number or a word with a fault in it. -/
  | broken (fault : Fault)
  /-- A character that starts no token. -/
  | stray
deriving DecidableEq, Repr

namespace Token

/-! ## Strings -/

/-- The character that a backslash followed by the given letter stands for. -/
def simpleEscape? (c : Char) : Option Char :=
  if c = '"' ∨ c = '\\' ∨ c = '/' then some c
  else if c = 'b' then some '\x08'
  else if c = 'f' then some '\x0c'
  else if c = 'n' then some '\n'
  else if c = 'r' then some '\r'
  else if c = 't' then some '\t'
  else none

/-- The value of a hexadecimal digit. -/
def hexValue? (c : Char) : Option Nat :=
  if c.isDigit then some (c.toNat - '0'.toNat)
  else if 'a' ≤ c ∧ c ≤ 'f' then some (c.toNat - 'a'.toNat + 10)
  else if 'A' ≤ c ∧ c ≤ 'F' then some (c.toNat - 'A'.toNat + 10)
  else none

/-- Four hexadecimal digits. A text of less than four bytes ends too early. -/
def readHex (cs : List Char) : Except Fault (Nat × List Char) :=
  if (cs.take 4).foldl (fun n c ↦ n + c.utf8Size) 0 < 4 then .error .endInString
  else match cs with
    | a :: b :: c :: d :: rest =>
      match hexValue? a, hexValue? b, hexValue? c, hexValue? d with
      | some a, some b, some c, some d => .ok (((a * 16 + b) * 16 + c) * 16 + d, rest)
      | _, _, _, _ => .error .unknownEscape
    | _ => .error .unknownEscape

/-- The first half of a surrogate pair. -/
def isLeading (n : Nat) : Bool := 0xD800 ≤ n && n ≤ 0xDBFF

/-- The second half of a surrogate pair. -/
def isTrailing (n : Nat) : Bool := 0xDC00 ≤ n && n ≤ 0xDFFF

/-- The character that a surrogate pair stands for. -/
def paired (leading trailing : Nat) : Char :=
  Char.ofNat ((leading - 0xD800) * 0x400 + (trailing - 0xDC00) + 0x10000)

/-- The second half of a surrogate pair, after the first. -/
def readPair (leading : Nat) : List Char → Except Fault (Char × List Char)
  | [] | ['\\'] => .error .endInString
  | '\\' :: 'u' :: rest =>
    match readHex rest with
    | .ok (n, rest') =>
      if isTrailing n then .ok (paired leading n, rest') else .error .loneSurrogate
    | .error f => .error f
  | _ => .error .brokenPair

/-- A character written by its code units, after the `u`. -/
def readUnits (cs : List Char) : Except Fault (Char × List Char) :=
  match readHex cs with
  | .ok (n, rest) =>
    if isTrailing n then .error .loneSurrogate
    else if isLeading n then readPair n rest
    else .ok (Char.ofNat n, rest)
  | .error f => .error f

/-- The character that an escape stands for, after the backslash. -/
def readEscape : List Char → Except Fault (Char × List Char)
  | [] => .error .endInString
  | c :: rest =>
    match simpleEscape? c with
    | some d => .ok (d, rest)
    | none => if c = 'u' then readUnits rest else .error .unknownEscape

theorem readHex_length {cs rest : List Char} {n : Nat} (h : readHex cs = .ok (n, rest)) :
    rest.length ≤ cs.length := by
  unfold readHex at h
  split at h
  · simp at h
  · split at h
    · split at h
      · simp at h; simp [← h.2]; omega
      · simp at h
    · simp at h

theorem readPair_length {cs rest : List Char} {leading : Nat} {c : Char}
    (h : readPair leading cs = .ok (c, rest)) : rest.length ≤ cs.length := by
  unfold readPair at h
  split at h
  · simp at h
  · simp at h
  · split at h
    · next hx =>
      have := readHex_length hx
      split at h
      · simp_all
        omega
      · simp at h
    · simp at h
  · simp at h

theorem readUnits_length {cs rest : List Char} {c : Char} (h : readUnits cs = .ok (c, rest)) :
    rest.length ≤ cs.length := by
  unfold readUnits at h
  split at h
  · next hx =>
    have := readHex_length hx
    split at h
    · simp at h
    · split at h
      · have := readPair_length h
        omega
      · simp_all
  · simp at h

theorem readEscape_length {cs rest : List Char} {c : Char} (h : readEscape cs = .ok (c, rest)) :
    rest.length ≤ cs.length := by
  cases cs with
  | nil => simp [readEscape] at h
  | cons d tail =>
    simp only [readEscape] at h
    split at h
    · simp_all
    · split at h
      · have := readUnits_length h
        simp; omega
      · simp at h

/-- A string after its opening quote, given the characters already read, the newest first. -/
def readText (cs : List Char) (before : List Char) : Except Fault (String × List Char) :=
  match cs with
  | [] => .error .endInString
  | c :: rest =>
    if c = '"' then .ok (String.ofList before.reverse, rest)
    else if c = '\\' then
      match _h : readEscape rest with
      | .ok (d, rest') => readText rest' (d :: before)
      | .error f => .error f
    else if c.toNat < 0x20 then .error .rawControl
    else readText rest (c :: before)
termination_by cs.length
decreasing_by
  · have := readEscape_length _h
    simp; omega
  · simp

theorem readText_length {cs before rest : List Char} {s : String}
    (h : readText cs before = .ok (s, rest)) : rest.length ≤ cs.length := by
  fun_induction readText cs before with
  | case1 => simp at h
  | case2 => simp_all
  | case3 before tail d rest' hx _ ih =>
    have := readEscape_length hx
    have := ih h
    simp; omega
  | case4 => simp at h
  | case5 => simp at h
  | case6 before c tail _ _ _ ih =>
    have := ih h
    simp; omega

/-! ## Words and marks -/

/-- The rest of a word, given its letters. -/
def readWord : List Char → List Char → Except Fault (List Char)
  | [], cs => .ok cs
  | _ :: _, [] => .error .endInValue
  | e :: es, c :: cs => if c = e then readWord es cs else .error .unknownWord

theorem readWord_length {word cs rest : List Char} (h : readWord word cs = .ok rest) :
    rest.length ≤ cs.length := by
  fun_induction readWord word cs with
  | case1 cs => simp_all
  | case2 => simp at h
  | case3 es c cs ih => have := ih h; simp; omega
  | case4 => simp at h

/-- The token that a single character stands for. -/
def mark? (c : Char) : Option Token :=
  if c = '[' then some .openArray
  else if c = ']' then some .closeArray
  else if c = '\x7b' then some .openObject
  else if c = '\x7d' then some .closeObject
  else if c = ',' then some .comma
  else if c = ':' then some .colon
  else none

/-- The token of the word that a character starts, and the other letters of the word. -/
def word? (c : Char) : Option (Token × List Char) :=
  if c = 't' then some (.bool true, ['r', 'u', 'e'])
  else if c = 'f' then some (.bool false, ['a', 'l', 's', 'e'])
  else if c = 'n' then some (.null, ['u', 'l', 'l'])
  else none

/-- Blanks between tokens. -/
def isBlank (c : Char) : Bool := c == ' ' || c == '\n' || c == '\t' || c == '\r'

/-- The tokens of a text, up to the first malformed one. -/
def ofText (cs : List Char) : List Token :=
  match cs with
  | [] => []
  | c :: rest =>
    if isBlank c then ofText rest
    else match mark? c with
      | some t => t :: ofText rest
      | none =>
        if c = '"' then
          match _h : readText rest [] with
          | .ok (s, rest') => .text s :: ofText rest'
          | .error f => [.brokenText f]
        else if c = '-' ∨ c.isDigit then
          match _h : Numeral.readNumber (c :: rest) with
          | .ok (n, rest') => .number n :: ofText rest'
          | .error f => [.broken f]
        else match word? c with
          | some (t, letters) =>
            match _h : readWord letters rest with
            | .ok rest' => t :: ofText rest'
            | .error f => [.broken f]
          | none => [.stray]
termination_by cs.length
decreasing_by
  · simp
  · simp
  · have := readText_length _h
    simp; omega
  · exact Numeral.readNumber_length _h
  · have := readWord_length _h
    simp; omega

end Token

end FluentQuery.Json
