import TextScan.Lambda.Term
import TextScan.Proofs.Extent

/-!
# The grammar of terms

What the texts are that a term may be written as, without saying how it is
read.  Operands stand next to each other with white space between them and are
applied from the left.  A lambda takes everything to its right into its body,
so it can only be the last operand:

* an atom is a name, or `'(' ws* expression ws* ')'`,
* a spine is `atom (ws+ atom)*`,
* a lambda is `name ws* '->' ws* expression`,
* an expression is a spine, a lambda, or `spine ws+ lambda`.
-/

namespace TextScan.Grammar

/-- The parts of a term that are written in different ways. -/
inductive Nonterminal where
  | atom
  | spine
  | lambda
  | expression

structure Letters (name : Text) : Prop where
  ne_nil : name ≠ []
  letters : ∀ c ∈ name, isLetter c = true

structure Gap (gap : Text) : Prop where
  ne_nil : gap ≠ []
  blank : Blank gap

/-- The term is written as the text, as a part of the given kind. -/
inductive Derives : Nonterminal → Term → Text → Prop
  | named {name : Text} (hname : Letters name) : Derives .atom (.var name) name
  | bracketed {inner : Term} {before written after : Text} (hbefore : Blank before)
      (hinner : Derives .expression inner written) (hafter : Blank after) :
      Derives .atom inner (['('] ++ (before ++ written) ++ (after ++ [')']))
  | single {operand : Term} {written : Text} (hatom : Derives .atom operand written) :
      Derives .spine operand written
  | applied {function argument : Term} {first gap second : Text}
      (hspine : Derives .spine function first) (hgap : Gap gap)
      (hatom : Derives .atom argument second) :
      Derives .spine (.apply function argument) (first ++ (gap ++ second))
  | lambda {param gap before written : Text} {body : Term} (hparam : Letters param)
      (hgap : Blank gap) (hbefore : Blank before)
      (hbody : Derives .expression body written) :
      Derives .lambda (.lambda param body)
        ((param ++ gap ++ ['-', '>']) ++ (before ++ written))
  | atoms {term : Term} {written : Text} (hspine : Derives .spine term written) :
      Derives .expression term written
  | alone {term : Term} {written : Text} (hlambda : Derives .lambda term written) :
      Derives .expression term written
  | endingIn {function argument : Term} {first gap second : Text}
      (hspine : Derives .spine function first) (hgap : Gap gap)
      (hlambda : Derives .lambda argument second) :
      Derives .expression (.apply function argument) (first ++ (gap ++ second))

/-- An expression with white space around it. -/
inductive Padded : Term → Text → Prop
  | mk {term : Term} {before written after : Text} (hbefore : Blank before)
      (hwritten : Derives .expression term written) (hafter : Blank after) :
      Padded term (before ++ written ++ after)

end TextScan.Grammar
