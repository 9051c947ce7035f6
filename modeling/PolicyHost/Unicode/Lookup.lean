import PolicyHost.Unicode.Age
import PolicyHost.Unicode.Derived
import PolicyHost.Unicode.ScriptExtension
import PolicyHost.Unicode.Segmentation

/-!
# Looking up properties

The sets of characters that names stand for: the name of a binary property, of
a general category or of a script, or the name of a property with the name of
one of its values. Names are compared in their plain form, which drops case,
separators and a leading `is`.
-/

namespace PolicyHost.Unicode

def lowerAscii (c : Char) : Char :=
  if 'A' ≤ c ∧ c ≤ 'Z' then Char.ofNat (c.toNat + 32) else c

/-- What counts of a name: ASCII characters that separate no words. -/
def isNameLetter (c : Char) : Bool :=
  c.toNat < 128 && c != ' ' && c != '_' && c != '-'

/-- A name without separators and in lower case. -/
def plainLetters (name : List Char) : List Char :=
  (name.filter isNameLetter).map lowerAscii

/-- The plain form of a name. The two letters `is` at its very front are
dropped, but for `isc`, which is a name of its own. -/
def plainName (name : List Char) : String :=
  match name with
  | i :: s :: rest =>
      if lowerAscii i = 'i' ∧ lowerAscii s = 's' then
        let letters := plainLetters rest
        if letters = ['c'] then "isc" else String.ofList letters
      else String.ofList (plainLetters name)
  | name => String.ofList (plainLetters name)

def Property.ofName? : String → Option Property
  | "alphabetic" | "alpha" => some .alphabetic
  | "asciihexdigit" | "ahex" => some .asciiHexDigit
  | "bidicontrol" | "bidic" => some .bidiControl
  | "bidimirrored" | "bidim" => some .bidiMirrored
  | "caseignorable" | "ci" => some .caseIgnorable
  | "cased" => some .cased
  | "changeswhencasefolded" | "cwcf" => some .changesWhenCaseFolded
  | "changeswhencasemapped" | "cwcm" => some .changesWhenCaseMapped
  | "changeswhenlowercased" | "cwl" => some .changesWhenLowercased
  | "changeswhentitlecased" | "cwt" => some .changesWhenTitlecased
  | "changeswhenuppercased" | "cwu" => some .changesWhenUppercased
  | "dash" => some .dash
  | "defaultignorablecodepoint" | "di" => some .defaultIgnorable
  | "deprecated" | "dep" => some .deprecated
  | "diacritic" | "dia" => some .diacritic
  | "emoji" => some .emoji
  | "emojicomponent" | "ecomp" => some .emojiComponent
  | "emojimodifier" | "emod" => some .emojiModifier
  | "emojimodifierbase" | "ebase" => some .emojiModifierBase
  | "emojipresentation" | "epres" => some .emojiPresentation
  | "extendedpictographic" | "extpict" => some .extendedPictographic
  | "extender" | "ext" => some .extender
  | "graphemebase" | "grbase" => some .graphemeBase
  | "graphemeextend" | "grext" => some .graphemeExtend
  | "graphemelink" | "grlink" => some .graphemeLink
  | "hexdigit" | "hex" => some .hexDigit
  | "hyphen" => some .hyphen
  | "idcompatmathcontinue" => some .idCompatMathContinue
  | "idcompatmathstart" => some .idCompatMathStart
  | "idcontinue" | "idc" => some .idContinue
  | "idstart" | "ids" => some .idStart
  | "ideographic" | "ideo" => some .ideographic
  | "idsbinaryoperator" | "idsb" => some .idsBinaryOperator
  | "idstrinaryoperator" | "idst" => some .idsTrinaryOperator
  | "idsunaryoperator" | "idsu" => some .idsUnaryOperator
  | "joincontrol" | "joinc" => some .joinControl
  | "logicalorderexception" | "loe" => some .logicalOrderException
  | "lowercase" | "lower" => some .lowercase
  | "math" => some .math
  | "modifiercombiningmark" | "mcm" => some .modifierCombiningMark
  | "noncharactercodepoint" | "nchar" => some .noncharacter
  | "otheralphabetic" | "oalpha" => some .otherAlphabetic
  | "otherdefaultignorablecodepoint" | "odi" => some .otherDefaultIgnorable
  | "othergraphemeextend" | "ogrext" => some .otherGraphemeExtend
  | "otheridcontinue" | "oidc" => some .otherIdContinue
  | "otheridstart" | "oids" => some .otherIdStart
  | "otherlowercase" | "olower" => some .otherLowercase
  | "othermath" | "omath" => some .otherMath
  | "otheruppercase" | "oupper" => some .otherUppercase
  | "patternsyntax" | "patsyn" => some .patternSyntax
  | "patternwhitespace" | "patws" => some .patternWhiteSpace
  | "prependedconcatenationmark" | "pcm" => some .prependedConcatenationMark
  | "quotationmark" | "qmark" => some .quotationMark
  | "radical" => some .radical
  | "regionalindicator" | "ri" => some .regionalIndicator
  | "sentenceterminal" | "sterm" => some .sentenceTerminal
  | "softdotted" | "sd" => some .softDotted
  | "terminalpunctuation" | "term" => some .terminalPunctuation
  | "unifiedideograph" | "uideo" => some .unifiedIdeograph
  | "uppercase" | "upper" => some .uppercase
  | "variationselector" | "vs" => some .variationSelector
  | "whitespace" | "wspace" | "space" => some .whiteSpace
  | "xidcontinue" | "xidc" => some .xidContinue
  | "xidstart" | "xids" => some .xidStart
  | _ => none

/-- The characters of the general category, or the group of them, of a plain
name. -/
def categorySet? : String → Option CharSet
  | "any" => some .all
  | "assigned" => some Category.unassigned.set.complement
  | "ascii" => some (.range 0 127)
  | name => (Category.ofName? name).map Category.setOf

/-- The characters of a name: of a binary property, a general category or a
script, in that order. -/
def named? (name : List Char) : Option CharSet :=
  let name := plainName name
  ((Property.ofName? name).map Property.set).or <|
    (categorySet? name).or <| (Script.ofName? name).map Script.set

/-- The characters for which a property has a value. -/
def valued? (property value : List Char) : Option CharSet :=
  let value := plainName value
  match plainName property with
  | "generalcategory" | "gc" => categorySet? value
  | "script" | "sc" => (Script.ofName? value).map Script.set
  | "scriptextensions" | "scx" => (Script.ofName? value).map Script.extension
  | "age" => Age.set? value
  | "graphemeclusterbreak" | "gcb" => Segmentation.cluster.set? value
  | "wordbreak" | "wb" => Segmentation.word.set? value
  | "sentencebreak" | "sb" => Segmentation.sentence.set? value
  | _ => none

end PolicyHost.Unicode
