import Galley.Content.Fault
import Galley.Decimal.Style
import Galley.Settings

/-!
Why a page, or a search on it, is refused.
-/

namespace Galley

/-- What a refusal is blamed on. -/
inductive FailureKind
  | content
  | configuration
deriving DecidableEq, Repr

/-- A reason with what it is blamed on. -/
def FailureKind.describe (kind : FailureKind) (reason : String) : String :=
  match kind with
  | content => "parse error: " ++ reason
  | configuration => "config error: " ++ reason

/-- The causes for which a page or a search is refused. -/
inductive Failure (α : Type)
  | content (fault : Content.Fault)
  | settings (error : SettingsError α)
  | pattern
deriving DecidableEq, Repr

/-- The reason in words. -/
def SettingsError.message : SettingsError Float → String
  | .notPositive field value =>
    field ++ " must be a positive number, got " ++ Decimal.plainText value
  | .noColumns => "columns.max_columns must be at least 1"
  | .spacingOrder mergeBelow splitAbove =>
    "spacing.merge_below (" ++ Decimal.plainText mergeBelow ++
      ") exceeds spacing.split_above (" ++ Decimal.plainText splitAbove ++ ")"

namespace Failure

def kind {α : Type} : Failure α → FailureKind
  | content _ => .content
  | settings _ => .configuration
  | pattern => .configuration

def reason : Failure Float → String
  | content fault => fault.message
  | settings error => error.message
  | pattern => "invalid search pattern"

/-- The failure in one line. -/
def message (f : Failure Float) : String := f.kind.describe f.reason

end Failure
end Galley
