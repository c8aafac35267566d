/-! Why a pattern text stands for no regular expression. -/
namespace UtilityCss.Regex

inductive Error where
  /-- The text ends inside an escape, a class, a group head or a repetition count. -/
  | unexpectedEnd
  | unopenedGroup
  | unclosedGroup
  | nothingToRepeat
  /-- A repetition count that is absent, too large, or has its bounds the wrong way round. -/
  | invalidCount
  | invalidEscape
  | invalidCodePoint
  | unknownProperty
  | unknownFlag
  | repeatedFlag
  /-- Flags that are absent, or a minus sign with no flag behind it. -/
  | incompleteFlags
  | invalidGroupName
  | repeatedGroupName
  /-- A class range whose ends are not characters in ascending order. -/
  | invalidRange
  /-- Something other than ASCII while Unicode is switched off. -/
  | unicodeOff
  | nestedTooDeeply
  | tooLarge
  deriving DecidableEq, Repr, Inhabited

end UtilityCss.Regex
