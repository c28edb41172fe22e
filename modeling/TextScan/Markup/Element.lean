import TextScan.Attribute

/-!
# Elements

An element has a tag, attributes and child elements in their order.  Its printed form has one tag
a line, children two columns further in, and attributes in the order of their keys.
-/

namespace TextScan

/-- A tag with attributes and what is nested in it. -/
inductive Element where
  | node (tag : Text) (attributes : Attributes) (children : List Element)

namespace Element

def tag : Element → Text
  | node tag _ _ => tag

def attributes : Element → Attributes
  | node _ attributes _ => attributes

def children : Element → List Element
  | node _ _ children => children

def blank : Element :=
  node [] .empty []

instance : Inhabited Element :=
  ⟨blank⟩

def attribute? (element : Element) (key : Text) : Option Text :=
  element.attributes.get? key

/-- The first child with the tag. -/
def child? (element : Element) (tag : Text) : Option Element :=
  element.children.find? fun child => child.tag == tag

mutual

def decEq : (left right : Element) → Decidable (left = right)
  | node tag attributes children, node tag' attributes' children' =>
    if htag : tag = tag' then
      if hattributes : attributes = attributes' then
        match decEqAll children children' with
        | isTrue hchildren => isTrue (by rw [htag, hattributes, hchildren])
        | isFalse hchildren => isFalse fun h => hchildren (by injection h)
      else isFalse fun h => hattributes (by injection h)
    else isFalse fun h => htag (by injection h)

def decEqAll : (left right : List Element) → Decidable (left = right)
  | [], [] => isTrue rfl
  | [], _ :: _ => isFalse (by simp)
  | _ :: _, [] => isFalse (by simp)
  | first :: rest, first' :: rest' =>
    match decEq first first' with
    | isFalse hfirst => isFalse fun h => hfirst (by injection h)
    | isTrue hfirst =>
      match decEqAll rest rest' with
      | isTrue hrest => isTrue (by rw [hfirst, hrest])
      | isFalse hrest => isFalse fun h => hrest (by injection h)

end

instance : DecidableEq Element :=
  decEq

/-- Attributes as they stand in a tag, each after a space, in front of other text. -/
def printAttributes (entries : List (Text × Text)) (rest : Text) : Text :=
  match entries with
  | [] => rest
  | (key, value) :: others =>
    ' ' :: key ++ '=' :: '"' :: value ++ '"' :: printAttributes others rest

def indent (level : Nat) (rest : Text) : Text :=
  List.replicate level ' ' ++ rest

mutual

/-- The printed form of an element that stands `level` columns in, in front of other text. -/
def printBefore (level : Nat) : Element → (rest : Text) → Text
  | node tag attributes [], rest =>
    indent level ('<' :: tag ++ printAttributes attributes.entries (" />\n".toList ++ rest))
  | node tag attributes (child :: children), rest =>
    indent level ('<' :: tag ++ printAttributes attributes.entries ('>' :: '\n' ::
      printBefore (level + 2) child (printAllBefore (level + 2) children
        (indent level ('<' :: '/' :: tag ++ '>' :: '\n' :: rest)))))

def printAllBefore (level : Nat) : List Element → (rest : Text) → Text
  | [], rest => rest
  | element :: others, rest => printBefore level element (printAllBefore level others rest)

end

def display (element : Element) : Text :=
  printBefore 0 element []

end Element

end TextScan
