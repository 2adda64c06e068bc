import CacheSteward.Instance.Kind
import CacheSteward.Record.Field

namespace CacheSteward

/-! Billing terms.  A reservation counts in months, which is the only unit there is. -/

structure Reservation where
  length : Int
deriving Repr, DecidableEq

namespace Reservation

def title : String := "Reservation"

def allowedLengths : List Int := [1, 2, 3, 4, 5, 6, 7, 8, 9, 12, 24, 36]

def unitWord : String := "Month"

def shownList (ns : List Int) : String :=
  (Value.list (ns.map Value.whole)).shown

def readLength (v : Value) : Checked Int :=
  (Field.whole v).ensure allowedLengths.contains
    (.custom ("reservation_length must be one of " ++ shownList allowedLengths))

def readUnit (v : Value) : Checked String :=
  (Field.text v).ensure (fun s => String.ofList (s.toList.map Char.toLower) == "month")
    (.custom "reservation_time_unit must be Month")

def ofEntries (es : List (Value × Value)) : Checked Reservation :=
  (fun length _ => ⟨length⟩) <$> Field.orElse "reservation_length" 1 readLength es <*>
    Field.orElse "reservation_time_unit" unitWord readUnit es

def read (v : Value) : Checked Reservation := (Field.recordEntries v).andThen ofEntries

def document (reservation : Reservation) : Value :=
  .fields [("reservation_length", .whole reservation.length),
    ("reservation_time_unit", .text unitWord)]

def wire (reservation : Reservation) : Value :=
  .fields [("reservationLength", .whole reservation.length),
    ("reservationTimeUnit", .text unitWord)]

end Reservation

structure Billing where
  paymentTiming : PaymentTiming := .postpaid
  reservation : Option Reservation := none
deriving Repr, DecidableEq

namespace Billing

def title : String := "Billing"

def ofEntries (es : List (Value × Value)) : Checked Billing :=
  Billing.mk <$> Field.orElse "payment_timing" .postpaid Field.member es <*>
    Field.optional "reservation" Reservation.read es

def read (v : Value) : Checked Billing := (Field.recordEntries v).andThen ofEntries

def document (billing : Billing) : Value :=
  .fields [("payment_timing", .text billing.paymentTiming.word),
    ("reservation", (billing.reservation.map Reservation.document).getD .null)]

/-- The terms as the control plane reads them.  A prepaid instance always has a reservation, of one
month unless another is given. -/
def wire (billing : Billing) : Value :=
  .fields (("paymentTiming", .text billing.paymentTiming.word) ::
    if billing.paymentTiming = .prepaid then
      [("reservation", (billing.reservation.getD ⟨1⟩).wire)]
    else [])

end Billing

end CacheSteward
