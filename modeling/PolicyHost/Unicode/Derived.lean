import PolicyHost.Unicode.CaseTable
import PolicyHost.Unicode.Composition

/-!
# The characters with a property

A property that is not listed follows from categories and from lists, or from
how characters change case. Three sets have letters of their own in patterns:
digits, white space and word characters.
-/

namespace PolicyHost.Unicode

/-- The code points that a run of the case tables covers. -/
def CaseRun.ranges (r : CaseRun) : List (Nat × Nat) :=
  if r.step = 1 then [(r.low, r.high)]
  else (List.range ((r.high - r.low) / r.step + 1)).map fun i =>
    (r.low + i * r.step, r.low + i * r.step)

/-- The characters that are not their own lower case: those of the runs, and
the dotted capital I, which becomes two characters. -/
def changedByLowering : CharSet :=
  .ofRanges ((0x130, 0x130) :: lowerRuns.flatMap CaseRun.ranges)

/-- The characters that are not their own upper case. -/
def changedByRaising : CharSet :=
  .ofRanges (upperRuns.flatMap CaseRun.ranges ++ upperSequences.map fun (n, _) => (n, n))

namespace Property

/-- How the characters with a property are put together. -/
def composition : Property → Composition
  | .alphabetic => {
      categories :=
        [.uppercaseLetter, .lowercaseLetter, .titlecaseLetter, .modifierLetter, .otherLetter,
         .letterNumber]
      properties := [.otherAlphabetic] }
  | .caseIgnorable => {
      categories := [.modifierLetter, .nonspacingMark, .enclosingMark, .modifierSymbol, .formatMark]
      table := "27 2E 3A B7 387 55F 5F4 2018-2019 2024 2027 FE13 FE52 FE55 FF07 FF0E FF1A" }
  | .cased => {
      categories := [.uppercaseLetter, .lowercaseLetter, .titlecaseLetter]
      properties := [.otherLowercase, .otherUppercase] }
  | .defaultIgnorable => {
      categories := [.formatMark]
      properties := [.otherDefaultIgnorable, .variationSelector]
      withoutProperties := [.whiteSpace, .prependedConcatenationMark]
      withoutTable := "FFF9-FFFB 13430-1343F" }
  | .graphemeBase => {
      categories :=
        [.uppercaseLetter, .lowercaseLetter, .titlecaseLetter, .modifierLetter, .otherLetter,
         .spacingMark, .decimalNumber, .letterNumber, .otherNumber, .connectorPunctuation,
         .dashPunctuation, .openPunctuation, .closePunctuation, .initialPunctuation,
         .finalPunctuation, .otherPunctuation, .mathSymbol, .currencySymbol, .modifierSymbol,
         .otherSymbol, .spaceSeparator]
      withoutProperties := [.otherGraphemeExtend] }
  | .graphemeExtend => {
      categories := [.nonspacingMark, .enclosingMark]
      properties := [.otherGraphemeExtend] }
  | .idContinue => {
      categories :=
        [.uppercaseLetter, .lowercaseLetter, .titlecaseLetter, .modifierLetter, .otherLetter,
         .nonspacingMark, .spacingMark, .decimalNumber, .letterNumber, .connectorPunctuation]
      properties := [.otherIdStart, .otherIdContinue]
      withoutProperties := [.patternSyntax, .patternWhiteSpace] }
  | .idStart => {
      categories :=
        [.uppercaseLetter, .lowercaseLetter, .titlecaseLetter, .modifierLetter, .otherLetter,
         .letterNumber]
      properties := [.otherIdStart]
      withoutProperties := [.patternSyntax, .patternWhiteSpace] }
  | .lowercase => {
      categories := [.lowercaseLetter]
      properties := [.otherLowercase] }
  | .math => {
      categories := [.mathSymbol]
      properties := [.otherMath] }
  | .uppercase => {
      categories := [.uppercaseLetter]
      properties := [.otherUppercase] }
  | .xidContinue => {
      categories :=
        [.uppercaseLetter, .lowercaseLetter, .titlecaseLetter, .modifierLetter, .otherLetter,
         .nonspacingMark, .spacingMark, .decimalNumber, .letterNumber, .connectorPunctuation]
      properties := [.otherIdStart, .otherIdContinue]
      withoutProperties := [.patternSyntax, .patternWhiteSpace]
      withoutTable := "37A 309B-309C FC5E-FC63 FDFA-FDFB FE70 FE72 FE74 FE76 FE78 FE7A FE7C FE7E" }
  | .xidStart => {
      categories :=
        [.uppercaseLetter, .lowercaseLetter, .titlecaseLetter, .modifierLetter, .otherLetter,
         .letterNumber]
      properties := [.otherIdStart]
      withoutProperties := [.patternSyntax, .patternWhiteSpace]
      withoutTable := "
        37A E33 EB3 309B-309C FC5E-FC63 FDFA-FDFB FE70 FE72 FE74 FE76 FE78 FE7A FE7C FE7E FF9E-FF9F" }
  | p => { properties := [p] }

/-- The characters that title case changes: those that upper case changes and
the capital digraphs, without those that are title case already or have no
title case. -/
def changedByTitling : CharSet :=
  (changedByRaising.union (.ofTable "1C4 1C7 1CA 1F1")).diff <| .ofTable "
    1C5 1C8 1CB 1F2 10D0-10FA 10FD-10FF 1F88-1F8F 1F98-1F9F 1FA8-1FAF 1FBC 1FCC 1FFC"

/-- The characters that case folding changes: those that lower case changes
and the small letters that fold to others, without the Cherokee capitals,
which fold to themselves. -/
def changedByFolding : CharSet :=
  (changedByLowering.diff (.range 0x13a0 0x13f5)).union <| .ofTable "
    B5 DF 149 17F 345 3C2 3D0-3D1 3D5-3D6 3F0-3F1 3F5 587 13F8-13FD 1C80-1C88 1E9A-1E9B 1F80-1F87
    1F90-1F97 1FA0-1FA7 1FB2-1FB4 1FB7 1FC2-1FC4 1FC7 1FF2-1FF4 1FF7 AB70-ABBF FB00-FB06 FB13-FB17"

def set : Property → CharSet
  | .changesWhenLowercased => changedByLowering
  | .changesWhenUppercased => changedByRaising
  | .changesWhenTitlecased => changedByTitling
  | .changesWhenCaseFolded => changedByFolding
  | .changesWhenCaseMapped =>
      .ofRanges (changedByLowering.ranges ++ changedByRaising.ranges ++ changedByTitling.ranges)
  | p => p.composition.set

end Property

/-- The decimal digits of every script. -/
def digitSet : CharSet :=
  Category.decimalNumber.set

def spaceSet : CharSet :=
  Property.whiteSpace.set

/-- Word characters: letters and what counts as such, marks, decimal digits,
connectors and joiners. -/
def wordSet : CharSet :=
  Composition.set {
    categories :=
      [.uppercaseLetter, .lowercaseLetter, .titlecaseLetter, .modifierLetter, .otherLetter,
       .letterNumber, .nonspacingMark, .spacingMark, .enclosingMark, .decimalNumber,
       .connectorPunctuation]
    properties := [.otherAlphabetic, .joinControl] }

end PolicyHost.Unicode
