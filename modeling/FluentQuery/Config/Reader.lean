import FluentQuery.Config.Basic

/-!
# Reading a configuration

A configuration is read from JSON token by token, so that the first problem in the text is the one
reported, whether it lies in the JSON or in the settings. The settings are the entries of an object,
each at most once, or the items of an array in the order of `Field.all`; those that are missing have
their defaults.
-/

namespace FluentQuery.Config

open Json (Token)

/-- A setting. -/
inductive Field where
  | roots
  | database
  | connectors
  | recursionLimit
deriving DecidableEq, Repr

namespace Field

/-- The settings in the order of an array. -/
def all : List Field := [.roots, .database, .connectors, .recursionLimit]

/-- The key of a setting. -/
def key : Field → String
  | .roots => "roots"
  | .database => "database"
  | .connectors => "connectors"
  | .recursionLimit => "recursionLimit"

/-- The setting of a key. -/
def ofKey? (key : String) : Option Field := all.find? fun field ↦ field.key == key

end Field

/-- The fault of a token that starts no value of the expected type. -/
def mismatch (expected : Expected) : Token → ReadFault
  | .brokenText fault | .broken fault => .json fault
  | .closeArray | .closeObject | .comma | .colon | .stray => .json .expectedValue
  | found => .wrongType found expected

/-! ## Values -/

/-- A list of texts from one of them on. -/
def readNamesFrom : List Token → Except ReadFault (List String × List Token)
  | [] => .error (.json .endInValue)
  | .text name :: .closeArray :: rest => .ok ([name], rest)
  | .text _ :: .comma :: .closeArray :: _ => .error (.json .trailingComma)
  | .text name :: .comma :: rest =>
    (readNamesFrom rest).map fun (names, rest') ↦ (name :: names, rest')
  | [.text _] => .error (.json .endInArray)
  | .text _ :: _ => .error (.json .expectedItemEnd)
  | found :: _ => .error (mismatch .text found)

/-- A list of texts. -/
def readNames : List Token → Except ReadFault (List String × List Token)
  | [] => .error (.json .endInValue)
  | [.openArray] => .error (.json .endInArray)
  | .openArray :: .closeArray :: rest => .ok ([], rest)
  | .openArray :: rest => readNamesFrom rest
  | found :: _ => .error (mismatch .sequence found)

/-- A text, or `null` for none. -/
def readText? : List Token → Except ReadFault (Option String × List Token)
  | [] => .error (.json .endInValue)
  | .null :: rest => .ok (none, rest)
  | .text s :: rest => .ok (some s, rest)
  | found :: _ => .error (mismatch .text found)

/-- A natural number of 32 bits. -/
def readLimit : List Token → Except ReadFault (Nat × List Token)
  | [] => .error (.json .endInValue)
  | .number (.int n) :: rest =>
    if 0 ≤ n ∧ n < Nat.pow 2 32 then .ok (n.toNat, rest)
    else .error (.wrongValue (.number (.int n)) .limit)
  | found :: _ => .error (mismatch .limit found)

/-- The value of a setting. -/
def readField (config : Config) (field : Field) (tokens : List Token) :
    Except ReadFault (Config × List Token) :=
  match field with
  | .roots => (readNames tokens).map fun (v, rest) ↦ ({ config with roots := v }, rest)
  | .database => (readText? tokens).map fun (v, rest) ↦ ({ config with database := v }, rest)
  | .connectors => (readNames tokens).map fun (v, rest) ↦ ({ config with connectors := v }, rest)
  | .recursionLimit =>
    (readLimit tokens).map fun (v, rest) ↦ ({ config with recursionLimit := v }, rest)

/-! ## Objects and arrays -/

/-- The text after a colon. -/
def readColon : List Token → Except ReadFault (List Token)
  | .colon :: rest => .ok rest
  | [] => .error (.json .endInObject)
  | _ => .error (.json .expectedColon)

/-- The entries of an object from a key on, given the settings that have not occurred. -/
def readEntries (config : Config) (unseen : List Field) (tokens : List Token) :
    Except ReadFault (Config × List Token) :=
  match tokens with
  | .text key :: afterKey =>
    match Field.ofKey? key with
    | none => .error (.unknownField key)
    | some field =>
      if _h : field ∈ unseen then
        match readColon afterKey with
        | .error fault => .error fault
        | .ok afterColon =>
          match readField config field afterColon with
          | .error fault => .error fault
          | .ok (config', afterValue) =>
            match afterValue with
            | .closeObject :: rest => .ok (config', rest)
            | .comma :: .closeObject :: _ => .error (.json .trailingComma)
            | .comma :: rest => readEntries config' (unseen.erase field) rest
            | [] => .error (.json .endInObject)
            | _ => .error (.json .expectedEntryEnd)
      else .error (.duplicateField key)
  | [] => .error (.json .endInValue)
  | .brokenText fault :: _ => .error (.json fault)
  | _ => .error (.json .keyNotString)
termination_by unseen.length
decreasing_by
  have := List.length_pos_of_mem _h
  rw [List.length_erase_of_mem _h]
  omega

/-- The items of an array after the first, given the settings that are still to come. -/
def readItems (config : Config) : List Field → List Token → Except ReadFault (Config × List Token)
  | _, [] => .error (.json .endInArray)
  | _, .closeArray :: rest => .ok (config, rest)
  | _, .comma :: .closeArray :: _ => .error (.json .trailingComma)
  | [], _ => .error (.json .trailingText)
  | field :: fields, .comma :: rest =>
    match readField config field rest with
    | .error fault => .error fault
    | .ok (config', rest') => readItems config' fields rest'
  | _ :: _, _ => .error (.json .expectedItemEnd)

/-- The settings. -/
def readSettings : List Token → Except ReadFault (Config × List Token)
  | [] => .error (.json .endInValue)
  | [.openObject] => .error (.json .endInObject)
  | .openObject :: .closeObject :: rest => .ok ({}, rest)
  | .openObject :: rest => readEntries {} Field.all rest
  | [.openArray] => .error (.json .endInArray)
  | .openArray :: .closeArray :: rest => .ok ({}, rest)
  | .openArray :: rest => do
    let (config, rest') ← readField {} .roots rest
    readItems config [.database, .connectors, .recursionLimit] rest'
  | found :: _ => .error (mismatch .settings found)

/-- The configuration that a text stands for. -/
def read (text : String) : Except Fault Config :=
  match readSettings (Token.ofText text.toList) with
  | .ok (config, []) => .ok config
  | .ok (_, _ :: _) => .error (.unreadable (.json .trailingText))
  | .error fault => .error (.unreadable fault)

end FluentQuery.Config
