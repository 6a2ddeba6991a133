import Waveguide.Numeral

/-!
What can stop a run, and how each cause is numbered and worded.
-/

namespace Waveguide

inductive PropertyFault (K : Type) where
  | period (period : K)
  | grooveWidth (width period : K)
  | negative

inductive ResourceFault where
  | unparsable
  | unreadable
  | definedTwice (name : String)
  | missing (names : List String)
  | unknown (name : String)
  | absent (name : String)
  | slots (name : String) (expected given : Nat)

inductive RenderFault where
  | undefined
  | malformed
  deriving DecidableEq

inductive Failure (K : Type) where
  | malformedVersion (version : String)
  | unsupportedVersion (found supported : String)
  | unresolvedReference (id : String)
  | duplicateId (id : String)
  | detachedConnector
  | lineEndsOrder (start finish : K)
  | diagonalLine (start finish : K)
  | invalidProperty (fault : PropertyFault K)
  | connectorOrder (start finish : K)
  | strongConflict (upper lower : K)
  /-- The conflicts were not settled within the bound on the number of scans. Over exact numbers this
  does not happen. Rounded numbers may reach it, where scanning without a bound would not end. -/
  | unsettled
  | resource (fault : ResourceFault)
  | template (name : String) (fault : RenderFault)
  | parse
  | file

namespace Failure

variable {K : Type}

def code : Failure K → Nat
  | malformedVersion _ => 1
  | unsupportedVersion .. => 2
  | unresolvedReference _ => 10
  | duplicateId _ => 11
  | detachedConnector => 12
  | lineEndsOrder .. => 13
  | diagonalLine .. => 14
  | invalidProperty _ => 15
  | connectorOrder .. => 16
  | strongConflict .. => 20
  | unsettled => 21
  | resource _ => 30
  | template .. => 31
  | parse => 40
  | file => 41

end Failure

def ResourceFault.message : ResourceFault → String
  | unparsable => "cannot parse resource"
  | unreadable => "cannot read"
  | definedTwice name => "resource error: template '" ++ name ++ "' is defined in both sections"
  | missing names => "resource error: missing templates: " ++ ", ".intercalate names
  | unknown name => "resource error: unknown template '" ++ name ++ "'"
  | absent name => "resource error: missing template '" ++ name ++ "'"
  | slots name expected given =>
      "resource error: template '" ++ name ++ "' takes " ++ Nat.repr expected ++ " values, " ++
        Nat.repr given ++ " given"

def RenderFault.message : RenderFault → String
  | undefined => "undefined value"
  | malformed => "syntax error"

variable {K : Type} [Numeral K]

def PropertyFault.message : PropertyFault K → String
  | .period value => "groove period must be positive, got " ++ Numeral.text value
  | .grooveWidth width limit =>
      "groove width " ++ Numeral.text width ++ " does not fit into period " ++ Numeral.text limit
  | .negative => "width, depth and padding must not be negative"

def Failure.message : Failure K → String
  | malformedVersion version => "malformed version string '" ++ version ++ "'"
  | unsupportedVersion found supported =>
      "unsupported description version " ++ found ++ " (engine supports " ++ supported ++ ")"
  | unresolvedReference id => "the point refers to unknown element '" ++ id ++ "'"
  | duplicateId id => "element id '" ++ id ++ "' is declared more than once"
  | detachedConnector => "connectors must be attached to lines at both ends"
  | lineEndsOrder start finish =>
      "incorrect order of line ends (" ++ Numeral.text start ++ " > " ++ Numeral.text finish ++ ")"
  | diagonalLine start finish =>
      "line is not horizontal (y goes from " ++ Numeral.text start ++ " to " ++
        Numeral.text finish ++ ")"
  | invalidProperty fault => "invalid line property: " ++ fault.message
  | connectorOrder start finish =>
      "connector must rise from its start line (y = " ++ Numeral.text start ++
        ") to its end line (y = " ++ Numeral.text finish ++ ")"
  | strongConflict upper lower =>
      "block overlap between lines at y = " ++ Numeral.text upper ++ " and y = " ++
        Numeral.text lower
  | unsettled => "the conflicts between lines do not settle"
  | resource fault => fault.message
  | template name fault => "template '" ++ name ++ "' failed to render: " ++ fault.message
  | parse => "failed to parse description"
  | file => "i/o error"

end Waveguide
