import TextScan.Markup.Element
import TextScan.Markup.Tag

/-!
# Documents

A document is a declaration followed by one element.  An element is a tag that closes itself, or
an opening tag, child elements and the closing tag of the same name; there is no text between tags
but white space.  Reading goes from left to right without second attempts: once a child cannot be
read its parent cannot either.
-/

namespace TextScan

/-- Something worth reporting about the reading of an element. -/
inductive Element.Note where
  /-- A key came again and its value was replaced. -/
  | overwritten (overwrite : Overwrite)
  /-- A closing tag has another name than the opening tag that it should close. -/
  | mismatched (opened closed : Text) (offset : Nat)
  /-- What stands at the offset is neither the closing tag of the element nor a child. -/
  | unclosed (tag : Text) (offset : Nat)
  deriving DecidableEq

/-- The outcome of reading at a site: a value and the site past it, if the reading succeeds, and
what there is to report, in order. -/
structure Reading (α : Type) where
  notes : List Element.Note
  result : Option (α × Site)

namespace Element

/-- Reads children and then the closing tag of the name, with no more than `fuel` parts. -/
def contentWithin (child : Site → Reading Element) (name : Text) :
    (fuel : Nat) → Site → Reading (List Element)
  | 0, _ => ⟨[], none⟩
  | fuel + 1, site =>
    match Tag.closing site with
    | some (close, next) =>
      if close.text = name then ⟨[], some ([], next)⟩
      else ⟨[.mismatched name close.text close.start], none⟩
    | none =>
      let first := child site
      match first.result with
      | none => ⟨first.notes ++ [.unclosed name site.offset], none⟩
      | some (element, next) =>
        let others := contentWithin child name fuel next
        ⟨first.notes ++ others.notes,
          others.result.map fun (elements, last) => (element :: elements, last)⟩

/-- Reads an element that is nested no more than `fuel` deep.  Every part of the content takes a
character at least, so what remains bounds their number. -/
def readWithin : (fuel : Nat) → Site → Reading Element
  | 0, _ => ⟨[], none⟩
  | fuel + 1, site =>
    let notes := (Tag.openingOverwrites site).map Note.overwritten
    match Tag.opening site with
    | none => ⟨notes, none⟩
    | some (opening, next) =>
      if opening.selfClosing then
        ⟨notes, some (node opening.name.text opening.attributes [], next)⟩
      else
        let content :=
          contentWithin (readWithin fuel) opening.name.text (next.rest.length + 1) next
        ⟨notes ++ content.notes,
          content.result.map fun (children, last) =>
            (node opening.name.text opening.attributes children, last)⟩

/-- Reads an element and all that is nested in it.  Each level takes a character at least, so what
remains bounds the depth. -/
def read (site : Site) : Reading Element :=
  readWithin (site.rest.length + 1) site

/-- Reads an element. -/
def scanner : Scanner Element := fun site =>
  (read site).result

end Element

/-- The attributes of the declaration and the outermost element. -/
structure Document where
  prolog : Attributes
  root : Element
  deriving DecidableEq

namespace Document

/-- Why a text is no document.  The offset is where the failing part starts. -/
inductive Error where
  | prolog (offset : Nat)
  | element (offset : Nat)
  | trailingContent (offset : Nat)
  deriving DecidableEq

def Error.offset : Error → Nat
  | prolog offset => offset
  | element offset => offset
  | trailingContent offset => offset

def Error.message : Error → String
  | prolog offset => s!"missing or malformed <?xml ...?> prolog at byte {offset}"
  | element offset => s!"no well-formed root element at byte {offset}"
  | trailingContent offset => s!"unexpected content after the root element at byte {offset}"

/-- Reads a declaration followed by an element. -/
def scanner : Scanner Document := do
  let prolog ← Tag.prolog
  let root ← Element.scanner
  return ⟨prolog, root⟩

/-- Reads a text that is a document, with white space after it at most.  Also returns what there
is to report, in order. -/
def readNoted (text : Text) : List Element.Note × Except Error Document :=
  let site := Site.start text
  let notes := (Tag.prologOverwrites site).map Element.Note.overwritten
  match Tag.prolog site with
  | none => (notes, .error (.prolog site.offset))
  | some (prolog, site) =>
    let reading := Element.read site
    match reading.result with
    | none => (notes ++ reading.notes, .error (.element site.offset))
    | some (root, site) =>
      let last := site.past (Probe.run (.char isWhiteSpace) site.rest)
      if last.isAtEnd then (notes ++ reading.notes, .ok ⟨prolog, root⟩)
      else (notes ++ reading.notes, .error (.trailingContent last.offset))

/-- Reads a text that is a document, with white space after it at most. -/
def parse (text : Text) : Except Error Document :=
  (readNoted text).2

end Document

end TextScan
