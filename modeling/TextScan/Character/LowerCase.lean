import TextScan.Character.CodeRange

/-!
# Lower-casing

The full default lower-case mapping of Unicode 16.0, character by character and without regard
to language or neighbours.  One character, the capital I with a dot, becomes two: the dot stays
as a combining mark.

Characters are compared by their lower cases (`sameLetter_iff`), within ASCII without the table.
-/

namespace TextScan

/-- The characters of `range` have their lower case `shift` code points further on. -/
structure CaseShift where
  range : CodeRange
  shift : Int
  deriving DecidableEq

/-- The characters whose lower case is another single character. -/
def lowerCaseShifts : List CaseShift := [
    ⟨⟨0x0041, 0x005A, 1⟩, 32⟩, ⟨⟨0x00C0, 0x00D6, 1⟩, 32⟩, ⟨⟨0x00D8, 0x00DE, 1⟩, 32⟩,
    ⟨⟨0x0100, 0x012E, 2⟩, 1⟩, ⟨⟨0x0132, 0x0136, 2⟩, 1⟩, ⟨⟨0x0139, 0x0147, 2⟩, 1⟩,
    ⟨⟨0x014A, 0x0176, 2⟩, 1⟩, ⟨⟨0x0178, 0x0178, 1⟩, -121⟩, ⟨⟨0x0179, 0x017D, 2⟩, 1⟩,
    ⟨⟨0x0181, 0x0181, 1⟩, 210⟩, ⟨⟨0x0182, 0x0184, 2⟩, 1⟩, ⟨⟨0x0186, 0x0186, 1⟩, 206⟩,
    ⟨⟨0x0187, 0x0187, 1⟩, 1⟩, ⟨⟨0x0189, 0x018A, 1⟩, 205⟩, ⟨⟨0x018B, 0x018B, 1⟩, 1⟩,
    ⟨⟨0x018E, 0x018E, 1⟩, 79⟩, ⟨⟨0x018F, 0x018F, 1⟩, 202⟩, ⟨⟨0x0190, 0x0190, 1⟩, 203⟩,
    ⟨⟨0x0191, 0x0191, 1⟩, 1⟩, ⟨⟨0x0193, 0x0193, 1⟩, 205⟩, ⟨⟨0x0194, 0x0194, 1⟩, 207⟩,
    ⟨⟨0x0196, 0x0196, 1⟩, 211⟩, ⟨⟨0x0197, 0x0197, 1⟩, 209⟩, ⟨⟨0x0198, 0x0198, 1⟩, 1⟩,
    ⟨⟨0x019C, 0x019C, 1⟩, 211⟩, ⟨⟨0x019D, 0x019D, 1⟩, 213⟩, ⟨⟨0x019F, 0x019F, 1⟩, 214⟩,
    ⟨⟨0x01A0, 0x01A4, 2⟩, 1⟩, ⟨⟨0x01A6, 0x01A6, 1⟩, 218⟩, ⟨⟨0x01A7, 0x01A7, 1⟩, 1⟩,
    ⟨⟨0x01A9, 0x01A9, 1⟩, 218⟩, ⟨⟨0x01AC, 0x01AC, 1⟩, 1⟩, ⟨⟨0x01AE, 0x01AE, 1⟩, 218⟩,
    ⟨⟨0x01AF, 0x01AF, 1⟩, 1⟩, ⟨⟨0x01B1, 0x01B2, 1⟩, 217⟩, ⟨⟨0x01B3, 0x01B5, 2⟩, 1⟩,
    ⟨⟨0x01B7, 0x01B7, 1⟩, 219⟩, ⟨⟨0x01B8, 0x01B8, 1⟩, 1⟩, ⟨⟨0x01BC, 0x01BC, 1⟩, 1⟩,
    ⟨⟨0x01C4, 0x01C4, 1⟩, 2⟩, ⟨⟨0x01C5, 0x01C5, 1⟩, 1⟩, ⟨⟨0x01C7, 0x01C7, 1⟩, 2⟩,
    ⟨⟨0x01C8, 0x01C8, 1⟩, 1⟩, ⟨⟨0x01CA, 0x01CA, 1⟩, 2⟩, ⟨⟨0x01CB, 0x01DB, 2⟩, 1⟩,
    ⟨⟨0x01DE, 0x01EE, 2⟩, 1⟩, ⟨⟨0x01F1, 0x01F1, 1⟩, 2⟩, ⟨⟨0x01F2, 0x01F4, 2⟩, 1⟩,
    ⟨⟨0x01F6, 0x01F6, 1⟩, -97⟩, ⟨⟨0x01F7, 0x01F7, 1⟩, -56⟩, ⟨⟨0x01F8, 0x021E, 2⟩, 1⟩,
    ⟨⟨0x0220, 0x0220, 1⟩, -130⟩, ⟨⟨0x0222, 0x0232, 2⟩, 1⟩, ⟨⟨0x023A, 0x023A, 1⟩, 10795⟩,
    ⟨⟨0x023B, 0x023B, 1⟩, 1⟩, ⟨⟨0x023D, 0x023D, 1⟩, -163⟩, ⟨⟨0x023E, 0x023E, 1⟩, 10792⟩,
    ⟨⟨0x0241, 0x0241, 1⟩, 1⟩, ⟨⟨0x0243, 0x0243, 1⟩, -195⟩, ⟨⟨0x0244, 0x0244, 1⟩, 69⟩,
    ⟨⟨0x0245, 0x0245, 1⟩, 71⟩, ⟨⟨0x0246, 0x024E, 2⟩, 1⟩, ⟨⟨0x0370, 0x0372, 2⟩, 1⟩,
    ⟨⟨0x0376, 0x0376, 1⟩, 1⟩, ⟨⟨0x037F, 0x037F, 1⟩, 116⟩, ⟨⟨0x0386, 0x0386, 1⟩, 38⟩,
    ⟨⟨0x0388, 0x038A, 1⟩, 37⟩, ⟨⟨0x038C, 0x038C, 1⟩, 64⟩, ⟨⟨0x038E, 0x038F, 1⟩, 63⟩,
    ⟨⟨0x0391, 0x03A1, 1⟩, 32⟩, ⟨⟨0x03A3, 0x03AB, 1⟩, 32⟩, ⟨⟨0x03CF, 0x03CF, 1⟩, 8⟩,
    ⟨⟨0x03D8, 0x03EE, 2⟩, 1⟩, ⟨⟨0x03F4, 0x03F4, 1⟩, -60⟩, ⟨⟨0x03F7, 0x03F7, 1⟩, 1⟩,
    ⟨⟨0x03F9, 0x03F9, 1⟩, -7⟩, ⟨⟨0x03FA, 0x03FA, 1⟩, 1⟩, ⟨⟨0x03FD, 0x03FF, 1⟩, -130⟩,
    ⟨⟨0x0400, 0x040F, 1⟩, 80⟩, ⟨⟨0x0410, 0x042F, 1⟩, 32⟩, ⟨⟨0x0460, 0x0480, 2⟩, 1⟩,
    ⟨⟨0x048A, 0x04BE, 2⟩, 1⟩, ⟨⟨0x04C0, 0x04C0, 1⟩, 15⟩, ⟨⟨0x04C1, 0x04CD, 2⟩, 1⟩,
    ⟨⟨0x04D0, 0x052E, 2⟩, 1⟩, ⟨⟨0x0531, 0x0556, 1⟩, 48⟩, ⟨⟨0x10A0, 0x10C5, 1⟩, 7264⟩,
    ⟨⟨0x10C7, 0x10C7, 1⟩, 7264⟩, ⟨⟨0x10CD, 0x10CD, 1⟩, 7264⟩, ⟨⟨0x13A0, 0x13EF, 1⟩, 38864⟩,
    ⟨⟨0x13F0, 0x13F5, 1⟩, 8⟩, ⟨⟨0x1C89, 0x1C89, 1⟩, 1⟩, ⟨⟨0x1C90, 0x1CBA, 1⟩, -3008⟩,
    ⟨⟨0x1CBD, 0x1CBF, 1⟩, -3008⟩, ⟨⟨0x1E00, 0x1E94, 2⟩, 1⟩, ⟨⟨0x1E9E, 0x1E9E, 1⟩, -7615⟩,
    ⟨⟨0x1EA0, 0x1EFE, 2⟩, 1⟩, ⟨⟨0x1F08, 0x1F0F, 1⟩, -8⟩, ⟨⟨0x1F18, 0x1F1D, 1⟩, -8⟩,
    ⟨⟨0x1F28, 0x1F2F, 1⟩, -8⟩, ⟨⟨0x1F38, 0x1F3F, 1⟩, -8⟩, ⟨⟨0x1F48, 0x1F4D, 1⟩, -8⟩,
    ⟨⟨0x1F59, 0x1F5F, 2⟩, -8⟩, ⟨⟨0x1F68, 0x1F6F, 1⟩, -8⟩, ⟨⟨0x1F88, 0x1F8F, 1⟩, -8⟩,
    ⟨⟨0x1F98, 0x1F9F, 1⟩, -8⟩, ⟨⟨0x1FA8, 0x1FAF, 1⟩, -8⟩, ⟨⟨0x1FB8, 0x1FB9, 1⟩, -8⟩,
    ⟨⟨0x1FBA, 0x1FBB, 1⟩, -74⟩, ⟨⟨0x1FBC, 0x1FBC, 1⟩, -9⟩, ⟨⟨0x1FC8, 0x1FCB, 1⟩, -86⟩,
    ⟨⟨0x1FCC, 0x1FCC, 1⟩, -9⟩, ⟨⟨0x1FD8, 0x1FD9, 1⟩, -8⟩, ⟨⟨0x1FDA, 0x1FDB, 1⟩, -100⟩,
    ⟨⟨0x1FE8, 0x1FE9, 1⟩, -8⟩, ⟨⟨0x1FEA, 0x1FEB, 1⟩, -112⟩, ⟨⟨0x1FEC, 0x1FEC, 1⟩, -7⟩,
    ⟨⟨0x1FF8, 0x1FF9, 1⟩, -128⟩, ⟨⟨0x1FFA, 0x1FFB, 1⟩, -126⟩, ⟨⟨0x1FFC, 0x1FFC, 1⟩, -9⟩,
    ⟨⟨0x2126, 0x2126, 1⟩, -7517⟩, ⟨⟨0x212A, 0x212A, 1⟩, -8383⟩, ⟨⟨0x212B, 0x212B, 1⟩, -8262⟩,
    ⟨⟨0x2132, 0x2132, 1⟩, 28⟩, ⟨⟨0x2160, 0x216F, 1⟩, 16⟩, ⟨⟨0x2183, 0x2183, 1⟩, 1⟩,
    ⟨⟨0x24B6, 0x24CF, 1⟩, 26⟩, ⟨⟨0x2C00, 0x2C2F, 1⟩, 48⟩, ⟨⟨0x2C60, 0x2C60, 1⟩, 1⟩,
    ⟨⟨0x2C62, 0x2C62, 1⟩, -10743⟩, ⟨⟨0x2C63, 0x2C63, 1⟩, -3814⟩, ⟨⟨0x2C64, 0x2C64, 1⟩, -10727⟩,
    ⟨⟨0x2C67, 0x2C6B, 2⟩, 1⟩, ⟨⟨0x2C6D, 0x2C6D, 1⟩, -10780⟩, ⟨⟨0x2C6E, 0x2C6E, 1⟩, -10749⟩,
    ⟨⟨0x2C6F, 0x2C6F, 1⟩, -10783⟩, ⟨⟨0x2C70, 0x2C70, 1⟩, -10782⟩, ⟨⟨0x2C72, 0x2C72, 1⟩, 1⟩,
    ⟨⟨0x2C75, 0x2C75, 1⟩, 1⟩, ⟨⟨0x2C7E, 0x2C7F, 1⟩, -10815⟩, ⟨⟨0x2C80, 0x2CE2, 2⟩, 1⟩,
    ⟨⟨0x2CEB, 0x2CED, 2⟩, 1⟩, ⟨⟨0x2CF2, 0x2CF2, 1⟩, 1⟩, ⟨⟨0xA640, 0xA66C, 2⟩, 1⟩,
    ⟨⟨0xA680, 0xA69A, 2⟩, 1⟩, ⟨⟨0xA722, 0xA72E, 2⟩, 1⟩, ⟨⟨0xA732, 0xA76E, 2⟩, 1⟩,
    ⟨⟨0xA779, 0xA77B, 2⟩, 1⟩, ⟨⟨0xA77D, 0xA77D, 1⟩, -35332⟩, ⟨⟨0xA77E, 0xA786, 2⟩, 1⟩,
    ⟨⟨0xA78B, 0xA78B, 1⟩, 1⟩, ⟨⟨0xA78D, 0xA78D, 1⟩, -42280⟩, ⟨⟨0xA790, 0xA792, 2⟩, 1⟩,
    ⟨⟨0xA796, 0xA7A8, 2⟩, 1⟩, ⟨⟨0xA7AA, 0xA7AA, 1⟩, -42308⟩, ⟨⟨0xA7AB, 0xA7AB, 1⟩, -42319⟩,
    ⟨⟨0xA7AC, 0xA7AC, 1⟩, -42315⟩, ⟨⟨0xA7AD, 0xA7AD, 1⟩, -42305⟩, ⟨⟨0xA7AE, 0xA7AE, 1⟩, -42308⟩,
    ⟨⟨0xA7B0, 0xA7B0, 1⟩, -42258⟩, ⟨⟨0xA7B1, 0xA7B1, 1⟩, -42282⟩, ⟨⟨0xA7B2, 0xA7B2, 1⟩, -42261⟩,
    ⟨⟨0xA7B3, 0xA7B3, 1⟩, 928⟩, ⟨⟨0xA7B4, 0xA7C2, 2⟩, 1⟩, ⟨⟨0xA7C4, 0xA7C4, 1⟩, -48⟩,
    ⟨⟨0xA7C5, 0xA7C5, 1⟩, -42307⟩, ⟨⟨0xA7C6, 0xA7C6, 1⟩, -35384⟩, ⟨⟨0xA7C7, 0xA7C9, 2⟩, 1⟩,
    ⟨⟨0xA7CB, 0xA7CB, 1⟩, -42343⟩, ⟨⟨0xA7CC, 0xA7CC, 1⟩, 1⟩, ⟨⟨0xA7D0, 0xA7D0, 1⟩, 1⟩,
    ⟨⟨0xA7D6, 0xA7DA, 2⟩, 1⟩, ⟨⟨0xA7DC, 0xA7DC, 1⟩, -42561⟩, ⟨⟨0xA7F5, 0xA7F5, 1⟩, 1⟩,
    ⟨⟨0xFF21, 0xFF3A, 1⟩, 32⟩, ⟨⟨0x10400, 0x10427, 1⟩, 40⟩, ⟨⟨0x104B0, 0x104D3, 1⟩, 40⟩,
    ⟨⟨0x10570, 0x1057A, 1⟩, 39⟩, ⟨⟨0x1057C, 0x1058A, 1⟩, 39⟩, ⟨⟨0x1058C, 0x10592, 1⟩, 39⟩,
    ⟨⟨0x10594, 0x10595, 1⟩, 39⟩, ⟨⟨0x10C80, 0x10CB2, 1⟩, 64⟩, ⟨⟨0x10D50, 0x10D65, 1⟩, 32⟩,
    ⟨⟨0x118A0, 0x118BF, 1⟩, 32⟩, ⟨⟨0x16E40, 0x16E5F, 1⟩, 32⟩, ⟨⟨0x1E900, 0x1E921, 1⟩, 34⟩]

/-- The lower case of a character.  A character that no range holds stands for itself. -/
def lowerCase (c : Char) : List Char :=
  if c = '\u0130' then
    ['i', '\u0307']
  else
    match lowerCaseShifts.find? fun entry => entry.range.contains c.toNat with
    | some entry => [Char.ofNat (c.toNat + entry.shift).toNat]
    | none => [c]

/-- Whether two characters have the same lower case.  Two ASCII characters are compared without
the table. -/
def sameLetter (a b : Char) : Bool :=
  if a.toNat < 0x80 ∧ b.toNat < 0x80 then a.toLower == b.toLower else lowerCase a == lowerCase b

/-- Within ASCII only the twenty-six capital letters have another lower case. -/
theorem lowerCase_of_ascii {c : Char} (h : c.toNat < 0x80) : lowerCase c = [c.toLower] := by
  have hall : ∀ code < 0x80, lowerCase (Char.ofNat code) = [(Char.ofNat code).toLower] := by
    decide +kernel
  rw [← Char.ofNat_toNat c]
  exact hall _ h

/-- Both ways of comparing decide about the same lower case. -/
theorem sameLetter_iff {a b : Char} : sameLetter a b = true ↔ lowerCase a = lowerCase b := by
  rw [sameLetter]
  split
  · rename_i hascii
    rw [lowerCase_of_ascii hascii.1, lowerCase_of_ascii hascii.2, beq_iff_eq, List.singleton_inj]
  · exact beq_iff_eq

end TextScan
