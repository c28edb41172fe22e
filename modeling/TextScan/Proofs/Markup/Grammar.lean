import TextScan.Markup.Document
import TextScan.Proofs.Extent

/-!
# The grammar of markup

What the tags, elements and documents are that a text may hold, without saying
how they are found.  Each definition relates a value to the texts that it is
written as:

* `(ws* key '="' value '"')*` for pairs,
* `ws* '<' name pairs ws* '/'? '>'` for an opening tag,
* a tag that closes itself, or an opening tag, elements and
  `ws* '</' name ws* '>'` with the same name, for an element,
* `'<?xml' pairs ws* '?>'` and an element for a document.

The attributes are determined by the pairs: under each key stands the value of
the last pair that has the key.
-/

namespace TextScan.Grammar

/-! ### Pairs -/

/-- A letter or digit and characters that do not end a key. -/
inductive Key : Text → Prop
  | mk {first : Char} {more : Text} (hfirst : isLetterOrDigit first = true)
      (hmore : ∀ c ∈ more, c ≠ '=' ∧ isWhiteSpace c = false ∧ c ∉ ['"', '<', '>', '/', '?']) :
      Key (first :: more)

/-- Keys with their values, in the order in which they are written. -/
inductive Pairs : List (Text × Text) → Text → Prop
  | nil : Pairs [] []
  | cons {blank key value written : Text} {pairs : List (Text × Text)}
      (hblank : Blank blank) (hkey : Key key) (hvalue : '"' ∉ value)
      (hpairs : Pairs pairs written) :
      Pairs ((key, value) :: pairs)
        (blank ++ key ++ ['=', '"'] ++ value ++ ['"'] ++ written)

/-- Under each key the attributes have the value of the last pair that has the key. -/
def LastWins (attributes : Attributes) (pairs : List (Text × Text)) : Prop :=
  ∀ key, attributes.get? key = pairs.reverse.lookup key

/-! ### Tags -/

structure Name (name : Text) : Prop where
  ne_nil : name ≠ []
  free : ∀ c ∈ name, isWhiteSpace c = false ∧ c ≠ '/' ∧ c ≠ '>'

/-- The text begins with one of the characters that a name does not have. -/
def EndsName (text : Text) : Prop :=
  ∃ c rest, text = c :: rest ∧ (isWhiteSpace c = true ∨ c = '/' ∨ c = '>')

def tagEnd (selfClosing : Bool) : Text :=
  if selfClosing then ['/', '>'] else ['>']

/-- An opening tag with its name and attributes. -/
inductive Opening : Text → Attributes → Bool → Text → Prop
  | mk {blank name written gap : Text} {pairs : List (Text × Text)} {attributes : Attributes}
      {selfClosing : Bool} (hblank : Blank blank) (hname : Name name)
      (hpairs : Pairs pairs written) (hattributes : LastWins attributes pairs)
      (hgap : Blank gap) (hends : EndsName (written ++ gap ++ tagEnd selfClosing)) :
      Opening name attributes selfClosing
        (blank ++ ['<'] ++ name ++ (written ++ gap ++ tagEnd selfClosing))

inductive Closing (name : Text) : Text → Prop
  | mk {blank gap : Text} (hblank : Blank blank) (hgap : Blank gap) :
      Closing name (blank ++ ['<', '/'] ++ name ++ gap ++ ['>'])

inductive Prolog : Attributes → Text → Prop
  | mk {written gap : Text} {pairs : List (Text × Text)} {attributes : Attributes}
      (hpairs : Pairs pairs written) (hattributes : LastWins attributes pairs)
      (hgap : Blank gap) :
      Prolog attributes ("<?xml".toList ++ (written ++ gap ++ "?>".toList))

/-! ### Elements -/

mutual

/-- An element with all that is nested in it. -/
inductive Node : Element → Text → Prop
  | selfClosing {name written : Text} {attributes : Attributes}
      (hopening : Opening name attributes true written) :
      Node (.node name attributes []) written
  | nested {name opened content closed : Text} {attributes : Attributes}
      {children : List Element} (hopening : Opening name attributes false opened)
      (hchildren : Nodes children content) (hclosing : Closing name closed) :
      Node (.node name attributes children) (opened ++ (content ++ closed))

inductive Nodes : List Element → Text → Prop
  | nil : Nodes [] []
  | cons {child : Element} {children : List Element} {first rest : Text}
      (hchild : Node child first) (hchildren : Nodes children rest) :
      Nodes (child :: children) (first ++ rest)

end

inductive Whole : Document → Text → Prop
  | mk {prolog : Attributes} {root : Element} {declared written : Text}
      (hprolog : Prolog prolog declared) (hroot : Node root written) :
      Whole ⟨prolog, root⟩ (declared ++ written)

end TextScan.Grammar
