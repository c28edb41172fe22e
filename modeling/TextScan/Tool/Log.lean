import TextScan.Quoted

/-!
# Log lines

A tool reports what it does in records of four levels of detail.  How many are shown is the
caller's choice: warnings only, or one level more for each time that verbosity is asked for.
-/

namespace TextScan

/-- How detailed a record is, the most important first. -/
inductive Level where
  | warn
  | info
  | debug
  | trace
  deriving DecidableEq

namespace Level

/-- The most detailed level that is shown, by how often verbosity was asked for. -/
def ofVerbosity : Nat → Level
  | 0 => warn
  | 1 => info
  | 2 => debug
  | _ => trace

def name : Level → String
  | warn => "WARN"
  | info => "INFO"
  | debug => "DEBUG"
  | trace => "TRACE"

/-- The number of the level, larger for more detail. -/
def detail : Level → Nat
  | warn => 0
  | info => 1
  | debug => 2
  | trace => 3

end Level

inductive FieldValue where
  | quoted (text : Text)
  | plain (text : Text)
  | number (value : Nat)
  deriving DecidableEq

def FieldValue.display : FieldValue → Text
  | quoted text => Text.quoted text
  | plain text => text
  | number value => (toString value).toList

/-- A record: its level, the part of the program that it comes from, what happened, and values
under names. -/
structure Record where
  level : Level
  target : String
  message : String
  fields : List (String × FieldValue)
  deriving DecidableEq

namespace Record

def display (record : Record) : String :=
  record.level.name ++ " " ++ record.target ++ ": " ++ record.message ++
    String.join (record.fields.map fun field =>
      " " ++ field.1 ++ "=" ++ String.ofList field.2.display)

/-- The lines of the records that are no more detailed than a level. -/
def shown (limit : Level) (records : List Record) : List String :=
  (records.filter fun record => record.level.detail ≤ limit.detail).map display

end Record

end TextScan
