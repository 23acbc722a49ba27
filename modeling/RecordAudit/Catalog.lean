import RecordAudit.Constraint.FieldRule
import RecordAudit.Rule

/-!
# Rules and constraints for commercial contracts

Absent and unreadable values count as the defaults of their kinds, so a constraint over a missing
field is checked against zero or false.
-/

namespace RecordAudit.Catalog

open Formula Reading

def version : String := "0.1.0"

def rules : List Rule :=
  [⟨"rule_auto_renewal_requires_term", "Auto-Renewal → Term Length",
      "If auto-renewal exists, term length must be specified",
      .implies (isYes "col_proc_auto_renewal") (present "col_term_length"), .error, true⟩,
    ⟨"rule_termination_requires_notice", "Termination → Notice Period",
      "If termination for convenience exists, notice period must be specified",
      .implies (isYes "col_proc_term_convenience") (present "col_notice_period"), .error, true⟩,
    ⟨"rule_liability_cap_requires_amount", "Liability Cap → Amount",
      "If liability is capped, the cap amount must be specified",
      .implies (isYes "col_proc_cap_liability") (present "col_liability_amount"), .warning, true⟩,
    ⟨"rule_mutual_exclusion_unlimited_cap", "Unlimited Liability ↔ ¬Capped",
      "Cannot have both unlimited liability and a liability cap",
      .implies (isYes "col_unlimited_liability") (isNo "col_proc_cap_liability"), .error, false⟩,
    ⟨"rule_insurance_with_cap", "Capped Liability → Insurance",
      "If liability is capped, insurance requirement should be specified",
      .implies (isYes "col_proc_cap_liability") (present "col_proc_insurance"), .info, false⟩,
    ⟨"rule_notice_period_range", "Notice Period Range",
      "Notice period must be between 30 and 180 days",
      .implies (present "col_notice_period")
        (.atom "col_notice_period" (.inRange (.ofInt 30) (.ofInt 180))), .warning, false⟩]

/-- The part of a total by which a derived total may differ from it. -/
def paymentTolerance : Number.Binary64 := .ofRat (mkRat 1 100)

/-! ## Terms -/

def field (name : String) : Term := .variable name

def int (i : Int) : Term := .literal (.int i)

def atLeast (a b : Term) : Term := .compare .ge a b

def atMost (a b : Term) : Term := .compare .le a b

def above (a b : Term) : Term := .compare .gt a b

def below (a b : Term) : Term := .compare .lt a b

/-- The term lies between two integers. -/
def between (a : Term) (low high : Int) : List Term := [atLeast a (int low), atMost a (int high)]

def plus (a b : Term) : Term := .arith .add a b

def minus (a b : Term) : Term := .arith .sub a b

def times (a b : Term) : Term := .arith .mul a b

def quotient (a b : Term) : Term := .arith .div a b

/-! ## Constraints -/

def termLengthBounds : Constraint :=
  .ofTerms "smt_term_length_bounds" "Term Length Range"
    "Contract term must be between 1 and 60 months" .error
    [("col_term_length", .count)]
    (between (field "col_term_length") 1 60)

def noticePeriodRange : Constraint :=
  .ofTerms "smt_notice_period_range" "Notice Period Range"
    "Notice period must be between 30 and 180 days" .warning
    [("col_notice_period", .count)]
    (between (field "col_notice_period") 30 180)

def autoRenewalRequiresTerm : Constraint :=
  .ofTerms "smt_auto_renewal_requires_term" "Auto-Renewal → Term Length"
    "If auto-renewal exists, term length must be positive" .error
    [("col_proc_auto_renewal", .flag), ("col_term_length", .count)]
    [.implies (field "col_proc_auto_renewal") (above (field "col_term_length") (int 0))]

def liabilityCapAmount : Constraint :=
  .ofTerms "smt_liability_cap_amount" "Liability Cap → Positive Amount"
    "If liability is capped, cap amount must be positive" .error
    [("col_proc_cap_liability", .flag), ("col_liability_amount", .amount)]
    [.implies (field "col_proc_cap_liability") (above (field "col_liability_amount") (int 0))]

/-- The total is the first payment and as many recurring ones as the term has months, up to the
tolerance. -/
def paymentTermsArithmetic : Constraint :=
  let total := field "col_total_payment"
  let calculated := plus (field "col_upfront_payment")
    (times (field "col_recurring_payment") (.toReal (field "col_term_length")))
  let tolerance := times total (.literal (.float paymentTolerance))
  .ofTerms "smt_payment_terms_arithmetic" "Payment Terms Consistency"
    "Total payment equals upfront + recurring * term length" .warning
    [("col_upfront_payment", .amount), ("col_recurring_payment", .amount),
      ("col_term_length", .count), ("col_total_payment", .amount)]
    [atLeast total (minus calculated tolerance), atMost total (plus calculated tolerance)]

def dateOrdering : Constraint :=
  .ofTerms "smt_date_ordering" "Start Date < End Date"
    "Contract start date must be before end date" .error
    [("col_start_date", .date), ("col_end_date", .date)]
    [below (field "col_start_date") (field "col_end_date")]

def paymentMethodExactlyOne : Constraint :=
  let wire := field "col_payment_wire"
  let check := field "col_payment_check"
  let ach := field "col_payment_ach"
  .ofTerms "smt_payment_method_xor" "Payment Method XOR"
    "Exactly one payment method must be selected" .error
    [("col_payment_wire", .flag), ("col_payment_check", .flag), ("col_payment_ach", .flag)]
    [.or [wire, check, ach], .not (.and [wire, check]), .not (.and [wire, ach]),
      .not (.and [check, ach])]

def ownershipPercentage : Constraint :=
  .ofTerms "smt_percentage_bounds" "Ownership Percentage"
    "Ownership percentage must be between 0% and 100%" .error
    [("col_ownership_pct", .amount)]
    (between (field "col_ownership_pct") 0 1)

def insuranceMinimum : Constraint :=
  .ofTerms "smt_insurance_minimum" "Insurance Coverage Minimum"
    "Insurance coverage must be at least 2x liability cap" .warning
    [("col_proc_insurance", .flag), ("col_liability_amount", .amount),
      ("col_insurance_amount", .amount)]
    [.implies (field "col_proc_insurance")
      (atLeast (field "col_insurance_amount") (times (field "col_liability_amount") (int 2)))]

/-- The notice, in days, is at most half of the term, in months of thirty days. -/
def noticeVersusTerm : Constraint :=
  .ofTerms "smt_notice_vs_term" "Notice Period vs Term Length"
    "Notice period must not exceed 50% of contract term" .warning
    [("col_notice_period", .count), ("col_term_length", .count)]
    [atMost (field "col_notice_period")
      (quotient (times (field "col_term_length") (int 30)) (int 2))]

def constraints : List Constraint :=
  [termLengthBounds, noticePeriodRange, autoRenewalRequiresTerm, liabilityCapAmount,
    paymentTermsArithmetic, dateOrdering, paymentMethodExactlyOne, ownershipPercentage,
    insuranceMinimum, noticeVersusTerm]

end RecordAudit.Catalog
