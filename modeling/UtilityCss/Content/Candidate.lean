import UtilityCss.Text.Blank
import UtilityCss.Text.Distinct

/-!
Candidate class tokens of a content text. Collection is loose: a candidate that no rule accepts
has no effect on a stylesheet.
-/
namespace UtilityCss.Content

def isSeparator (c : Char) : Bool :=
  Text.isBlank c || c = '"' || c = '\'' || c = '\x60' || c = '<' || c = '>' || c = '=' ||
    c = '{' || c = '}' || c = ';' || c = ','

def isCandidateStart (c : Char) : Bool := c.isAlphanum || c = '-'

def isCandidateChar (c : Char) : Bool :=
  c.isAlphanum || c = '_' || c = '-' || c = ':' || c = '[' || c = ']' || c = '/' || c = '.' ||
    c = '%' || c = '#' || c = '(' || c = ')'

def isCandidate : List Char → Bool
  | [] => false
  | c :: rest => isCandidateStart c && rest.all isCandidateChar && (c :: rest).any Char.isAlphanum

/-- Full stops and colons at the end of a stretch belong to the sentence around it. -/
def isTrailing (c : Char) : Bool := c = '.' || c = ':'

def candidates (text : List Char) : List (List Char) :=
  ((text.splitOnP isSeparator).map (Text.trimEnd isTrailing)).filter isCandidate

/-- The candidates of a text, each once, ascending. -/
def extractTokens (text : String) : List String :=
  Text.distinct ((candidates text.toList).map String.ofList)

end UtilityCss.Content
