import PolicyHost.Unicode.Composition

/-!
# Segmentation

The classes of characters by which text is cut into clusters, words and
sentences: for each class its names, in lower case and without separators,
and the characters in it. What is in no class here has no class that a name
stands for.
-/

namespace PolicyHost.Unicode

/-- A class of one of the three segmentations. -/
structure BreakClass where
  names : List String
  characters : Composition

inductive Segmentation where
  | cluster
  | word
  | sentence
deriving DecidableEq, Repr

/-- The Hangul syllables without a final consonant. -/
def openSyllables : String := "
    AC00 AC1C AC38 AC54 AC70 AC8C ACA8 ACC4 ACE0 ACFC AD18 AD34 AD50 AD6C AD88 ADA4 ADC0 ADDC ADF8
    AE14 AE30 AE4C AE68 AE84 AEA0 AEBC AED8 AEF4 AF10 AF2C AF48 AF64 AF80 AF9C AFB8 AFD4 AFF0 B00C
    B028 B044 B060 B07C B098 B0B4 B0D0 B0EC B108 B124 B140 B15C B178 B194 B1B0 B1CC B1E8 B204 B220
    B23C B258 B274 B290 B2AC B2C8 B2E4 B300 B31C B338 B354 B370 B38C B3A8 B3C4 B3E0 B3FC B418 B434
    B450 B46C B488 B4A4 B4C0 B4DC B4F8 B514 B530 B54C B568 B584 B5A0 B5BC B5D8 B5F4 B610 B62C B648
    B664 B680 B69C B6B8 B6D4 B6F0 B70C B728 B744 B760 B77C B798 B7B4 B7D0 B7EC B808 B824 B840 B85C
    B878 B894 B8B0 B8CC B8E8 B904 B920 B93C B958 B974 B990 B9AC B9C8 B9E4 BA00 BA1C BA38 BA54 BA70
    BA8C BAA8 BAC4 BAE0 BAFC BB18 BB34 BB50 BB6C BB88 BBA4 BBC0 BBDC BBF8 BC14 BC30 BC4C BC68 BC84
    BCA0 BCBC BCD8 BCF4 BD10 BD2C BD48 BD64 BD80 BD9C BDB8 BDD4 BDF0 BE0C BE28 BE44 BE60 BE7C BE98
    BEB4 BED0 BEEC BF08 BF24 BF40 BF5C BF78 BF94 BFB0 BFCC BFE8 C004 C020 C03C C058 C074 C090 C0AC
    C0C8 C0E4 C100 C11C C138 C154 C170 C18C C1A8 C1C4 C1E0 C1FC C218 C234 C250 C26C C288 C2A4 C2C0
    C2DC C2F8 C314 C330 C34C C368 C384 C3A0 C3BC C3D8 C3F4 C410 C42C C448 C464 C480 C49C C4B8 C4D4
    C4F0 C50C C528 C544 C560 C57C C598 C5B4 C5D0 C5EC C608 C624 C640 C65C C678 C694 C6B0 C6CC C6E8
    C704 C720 C73C C758 C774 C790 C7AC C7C8 C7E4 C800 C81C C838 C854 C870 C88C C8A8 C8C4 C8E0 C8FC
    C918 C934 C950 C96C C988 C9A4 C9C0 C9DC C9F8 CA14 CA30 CA4C CA68 CA84 CAA0 CABC CAD8 CAF4 CB10
    CB2C CB48 CB64 CB80 CB9C CBB8 CBD4 CBF0 CC0C CC28 CC44 CC60 CC7C CC98 CCB4 CCD0 CCEC CD08 CD24
    CD40 CD5C CD78 CD94 CDB0 CDCC CDE8 CE04 CE20 CE3C CE58 CE74 CE90 CEAC CEC8 CEE4 CF00 CF1C CF38
    CF54 CF70 CF8C CFA8 CFC4 CFE0 CFFC D018 D034 D050 D06C D088 D0A4 D0C0 D0DC D0F8 D114 D130 D14C
    D168 D184 D1A0 D1BC D1D8 D1F4 D210 D22C D248 D264 D280 D29C D2B8 D2D4 D2F0 D30C D328 D344 D360
    D37C D398 D3B4 D3D0 D3EC D408 D424 D440 D45C D478 D494 D4B0 D4CC D4E8 D504 D520 D53C D558 D574
    D590 D5AC D5C8 D5E4 D600 D61C D638 D654 D670 D68C D6A8 D6C4 D6E0 D6FC D718 D734 D750 D76C D788"

namespace Segmentation

def classes : Segmentation → List BreakClass
  | .cluster => [
    ⟨["control", "cn"], {
      categories := [.control, .formatMark, .lineSeparator, .paragraphSeparator]
      table := "2065 FFF0-FFF8 E0000 E0002-E001F E0080-E00FF E01F0-E0FFF"
      withoutProperties := [.prependedConcatenationMark]
      withoutTable := "A D 200C-200D E0020-E007F" }⟩,
    ⟨["cr"], {
      table := "D" }⟩,
    ⟨["extend", "ex"], {
      categories := [.nonspacingMark, .enclosingMark]
      properties := [.otherGraphemeExtend, .emojiModifier] }⟩,
    ⟨["l"], {
      table := "1100-115F A960-A97C" }⟩,
    ⟨["lf"], {
      table := "A" }⟩,
    ⟨["lv"], {
      table := openSyllables }⟩,
    ⟨["lvt"], {
      table := "AC00-D7A3"
      withoutTable := openSyllables }⟩,
    ⟨["prepend", "pp"], {
      table := "
        600-605 6DD 70F 890-891 8E2 D4E 110BD 110CD 111C2-111C3 113D1 1193F 11941 11A3A 11A84-11A89
        11D46 11F02" }⟩,
    ⟨["regionalindicator", "ri"], {
      properties := [.regionalIndicator] }⟩,
    ⟨["spacingmark", "sm"], {
      categories := [.spacingMark]
      table := "E33 EB3"
      withoutTable := "
        9BE 9D7 B3E B57 BBE BD7 CC0 CC2 CC7-CC8 CCA-CCB CD5-CD6 D3E D57 DCF DDF 102B-102C 1038
        1062-1064 1067-106D 1083 1087-108C 108F 109A-109C 1715 1734 1A61 1A63-1A64 1B35 1B3B 1B3D
        1B43-1B44 1BAA 1BF2-1BF3 302E-302F A953 A9C0 AA7B AA7D 111C0 11235 1133E 1134D 11357 113B8
        113C2 113C5 113C7-113C9 113CF 114B0 114BD 115AF 116B6 11720-11721 11930 1193D 11F41
        16FF0-16FF1 1D165-1D166 1D16D-1D172" }⟩,
    ⟨["t"], {
      table := "11A8-11FF D7CB-D7FB" }⟩,
    ⟨["v"], {
      table := "1160-11A7 D7B0-D7C6 16D63 16D67-16D6A" }⟩,
    ⟨["zwj"], {
      table := "200D" }⟩]
  | .word => [
    ⟨["cr"], {
      table := "D" }⟩,
    ⟨["doublequote", "dq"], {
      table := "22" }⟩,
    ⟨["extendnumlet", "ex"], {
      categories := [.connectorPunctuation]
      table := "202F" }⟩,
    ⟨["extend"], {
      categories := [.nonspacingMark, .enclosingMark, .spacingMark]
      properties := [.otherGraphemeExtend, .emojiModifier] }⟩,
    ⟨["format", "fo"], {
      categories := [.formatMark]
      withoutTable := "600-605 6DD 70F 890-891 8E2 200B-200D 110BD 110CD E0020-E007F" }⟩,
    ⟨["hebrewletter", "hl"], {
      table := "
        5D0-5EA 5EF-5F2 FB1D FB1F-FB28 FB2A-FB36 FB38-FB3C FB3E FB40-FB41 FB43-FB44 FB46-FB4F" }⟩,
    ⟨["katakana", "ka"], {
      table := "
        3031-3035 309B-309C 30A0-30FA 30FC-30FF 31F0-31FF 32D0-32FE 3300-3357 FF66-FF9D 1AFF0-1AFF3
        1AFF5-1AFFB 1AFFD-1AFFE 1B000 1B120-1B122 1B155 1B164-1B167" }⟩,
    ⟨["aletter", "le"], {
      categories :=
        [.uppercaseLetter, .lowercaseLetter, .titlecaseLetter, .modifierLetter, .otherLetter,
         .letterNumber]
      properties := [.otherAlphabetic]
      table := "
        B8 2C2-2C5 2D2-2D7 2DE-2DF 2E5-2EB 2ED 2EF-2FF 55A-55C 55E 58A 5F3 70F A708-A716 A720-A721
        A789-A78A AB5B"
      withoutCategories := [.nonspacingMark, .enclosingMark, .spacingMark]
      withoutProperties := [.ideographic]
      withoutTable := "
        5D0-5EA 5EF-5F2 E01-E30 E32-E33 E40-E46 E81-E82 E84 E86-E8A E8C-EA3 EA5 EA7-EB0 EB2-EB3 EBD
        EC0-EC4 EC6 EDC-EDF 1000-102A 103F 1050-1055 105A-105D 1061 1065-1066 106E-1070 1075-1081
        108E 1780-17B3 17D7 17DC 1950-196D 1970-1974 1980-19AB 19B0-19C9 1A20-1A54 1AA7 3031-3035
        3041-3096 309D-309F 30A1-30FA 30FC-30FF 31F0-31FF A9E0-A9E4 A9E6-A9EF A9FA-A9FE AA60-AA76
        AA7A AA7E-AAAF AAB1 AAB5-AAB6 AAB9-AABD AAC0 AAC2 AADB-AADD FB1D FB1F-FB28 FB2A-FB36
        FB38-FB3C FB3E FB40-FB41 FB43-FB44 FB46-FB4F FF66-FF9F 11700-1171A 11740-11746 1AFF0-1AFF3
        1AFF5-1AFFB 1AFFD-1AFFE 1B000-1B122 1B132 1B150-1B152 1B155 1B164-1B167" }⟩,
    ⟨["lf"], {
      table := "A" }⟩,
    ⟨["midnumlet", "mb"], {
      table := "2E 2018-2019 2024 FE52 FF07 FF0E" }⟩,
    ⟨["midletter", "ml"], {
      table := "3A B7 387 55F 5F4 2027 FE13 FE55 FF1A" }⟩,
    ⟨["midnum", "mn"], {
      table := "2C 3B 37E 589 60C-60D 66C 7F8 2044 FE10 FE14 FE50 FE54 FF0C FF1B" }⟩,
    ⟨["newline", "nl"], {
      table := "B-C 85 2028-2029" }⟩,
    ⟨["numeric", "nu"], {
      categories := [.decimalNumber]
      properties := [.prependedConcatenationMark]
      table := "66B"
      withoutTable := "70F" }⟩,
    ⟨["regionalindicator", "ri"], {
      properties := [.regionalIndicator] }⟩,
    ⟨["singlequote", "sq"], {
      table := "27" }⟩,
    ⟨["wsegspace"], {
      categories := [.spaceSeparator]
      withoutTable := "A0 2007 202F" }⟩,
    ⟨["zwj"], {
      table := "200D" }⟩]
  | .sentence => [
    ⟨["aterm", "at"], {
      table := "2E 2024 FE52 FF0E" }⟩,
    ⟨["close", "cl"], {
      categories := [.openPunctuation, .closePunctuation, .initialPunctuation, .finalPunctuation]
      table := "22 27 275B-2760 2E00-2E01 2E06-2E08 2E0B 1F676-1F678" }⟩,
    ⟨["cr"], {
      table := "D" }⟩,
    ⟨["extend", "ex"], {
      categories := [.nonspacingMark, .enclosingMark, .spacingMark]
      properties := [.otherGraphemeExtend]
      table := "200D" }⟩,
    ⟨["format", "fo"], {
      categories := [.formatMark]
      withoutTable := "600-605 6DD 890-891 8E2 200C-200D 110BD 110CD E0020-E007F" }⟩,
    ⟨["oletter", "le"], {
      categories := [.modifierLetter, .otherLetter, .letterNumber]
      properties := [.otherAlphabetic]
      table := "5F3 10D0-10FA 10FD-10FF 1C90-1CBA 1CBD-1CBF"
      withoutCategories := [.nonspacingMark, .spacingMark, .enclosingMark]
      withoutProperties := [.otherLowercase, .otherUppercase]
      withoutTable := "FF9E-FF9F" }⟩,
    ⟨["lf"], {
      table := "A" }⟩,
    ⟨["lower", "lo"], {
      categories := [.lowercaseLetter]
      properties := [.otherLowercase]
      withoutTable := "345 10D0-10FA 10FD-10FF" }⟩,
    ⟨["numeric", "nu"], {
      categories := [.decimalNumber]
      properties := [.prependedConcatenationMark]
      table := "66B-66C"
      withoutTable := "70F" }⟩,
    ⟨["scontinue", "sc"], {
      table := "
        2C-2D 3A-3B 37E 55D 60C-60D 7F8 1802 1808 2013-2014 3001 FE10-FE11 FE13-FE14 FE31-FE32
        FE50-FE51 FE54-FE55 FE58 FE63 FF0C-FF0D FF1A-FF1B FF64" }⟩,
    ⟨["sep", "se"], {
      table := "85 2028-2029" }⟩,
    ⟨["sp", "sp"], {
      properties := [.whiteSpace]
      withoutTable := "A D 85 2028-2029" }⟩,
    ⟨["sterm", "st"], {
      properties := [.sentenceTerminal]
      withoutTable := "2E 2024 FE52 FF0E" }⟩,
    ⟨["upper", "up"], {
      categories := [.uppercaseLetter, .titlecaseLetter]
      properties := [.otherUppercase]
      withoutTable := "1C90-1CBA 1CBD-1CBF" }⟩]

def set? (s : Segmentation) (name : String) : Option CharSet :=
  (s.classes.find? fun c => c.names.contains name).map fun c => c.characters.set

end Segmentation

end PolicyHost.Unicode
