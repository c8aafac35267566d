import UtilityCss.Css.Declarations
import UtilityCss.Css.Identifier
import UtilityCss.Regex.Basic

/-!
Rules for class tokens. A rule accepts a token if the token is the rule's literal or is matched by
its pattern, and then gives declarations for the elements that carry the token.
-/
namespace UtilityCss

open Css (Declarations Fragment Layer)

/-- A token that a rule has accepted, with what the groups of the pattern have captured in it. -/
structure RuleMatch where
  token : String
  groups : List (Option String)
  deriving DecidableEq, Repr, Inhabited

/-- Group 0 is the token. A group that took no part in the match holds nothing. -/
def RuleMatch.group? (m : RuleMatch) : Nat → Option String
  | 0 => some m.token
  | i + 1 => m.groups[i]?.join

/-- Declarations for what a token's selector is turned into. -/
structure RuleBlock where
  selector : String → String := id
  declarations : Declarations

/-- What a rule gives for a token: its blocks in the order of output. -/
abbrev RuleOutput := List RuleBlock

namespace RuleOutput

def ofDeclarations (declarations : Declarations) : RuleOutput := [⟨id, declarations⟩]

def fragments (output : RuleOutput) (selector : String) (layer : Layer) : List Fragment :=
  (output.filter fun b => !b.declarations.isEmpty).map fun b =>
    ⟨b.selector selector, layer, b.declarations⟩

end RuleOutput

inductive Matcher where
  | exact (literal : String)
  /-- The whole token has to match; `arity` groups of the pattern are read. -/
  | pattern (text : String) (arity : Nat)
  deriving DecidableEq, Repr, Inhabited

structure Rule where
  name : String
  matcher : Matcher
  layer : Layer := .components
  output : RuleMatch → String → RuleOutput

inductive RuleError where
  | emptyMatcher (rule : String)
  | invalidPattern (rule : String) (cause : Regex.Error)
  | missingGroups (rule : String) (expected found : Nat)
  deriving DecidableEq, Repr, Inhabited

def RuleError.message : RuleError → String
  | emptyMatcher rule => "rule '" ++ rule ++ "' has an empty matcher"
  | invalidPattern rule _ => "rule '" ++ rule ++ "' has an invalid pattern"
  | missingGroups rule expected found =>
    "rule '" ++ rule ++ "' expects " ++ toString expected ++
      " capture group(s) but its pattern only has " ++ toString found

inductive CompiledMatcher where
  | exact (literal : String)
  | pattern (text : String) (regex : Regex)
  deriving DecidableEq, Repr, Inhabited

namespace CompiledMatcher

def text : CompiledMatcher → String
  | exact literal => literal
  | pattern text _ => text

def isPattern : CompiledMatcher → Bool
  | exact _ => false
  | pattern .. => true

def accept (token : String) : CompiledMatcher → Option RuleMatch
  | exact literal => if literal = token then some ⟨token, []⟩ else none
  | pattern _ regex =>
    (regex.captures token.toList).map fun groups => ⟨token, groups.map (·.map String.ofList)⟩

end CompiledMatcher

structure CompiledRule where
  name : String
  matcher : CompiledMatcher
  layer : Layer
  output : RuleMatch → String → RuleOutput

namespace CompiledRule

def fragments? (r : CompiledRule) (token : String) : Option (List Fragment) :=
  (r.matcher.accept token).map fun m =>
    let selector := Css.Identifier.classSelector token
    (r.output m selector).fragments selector r.layer

end CompiledRule

namespace Rule

def anchored (pattern : String) : String := "^(?:" ++ pattern ++ ")$"

/-- The rule made ready for use; `limit` is the room that its pattern may take. -/
def compile (limit : Option Nat) (r : Rule) : Except RuleError CompiledRule :=
  match r.matcher with
  | .exact literal =>
    if literal.isEmpty then .error (.emptyMatcher r.name)
    else .ok ⟨r.name, .exact literal, r.layer, r.output⟩
  | .pattern pattern arity =>
    if pattern.isEmpty then .error (.emptyMatcher r.name)
    else match Regex.ofText limit (anchored pattern).toList with
      | .error cause => .error (.invalidPattern r.name cause)
      | .ok regex =>
        if regex.groupCount < arity then .error (.missingGroups r.name arity regex.groupCount)
        else .ok ⟨r.name, .pattern (anchored pattern) regex, r.layer, r.output⟩

end Rule

end UtilityCss
