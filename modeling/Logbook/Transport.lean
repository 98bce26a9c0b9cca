/-
Transports.  A transport hands a record to one outlet or to several transports in order.  A fault
in one of them reaches the caller, and those behind it do not see the record.
-/
import Logbook.Fault
import Logbook.Record

namespace Logbook

/-- A tree of transports over outlets. -/
inductive Transport (Outlet : Type) where
  | outlet (target : Outlet)
  | fanOut (transports : List (Transport Outlet))

namespace Transport

variable {Outlet World : Type}

mutual

/-- The outlets of a transport in the order in which they see a record. -/
def outlets : Transport Outlet → List Outlet
  | .outlet target => [target]
  | .fanOut transports => outletsOf transports

/-- The outlets of transports in order. -/
def outletsOf : List (Transport Outlet) → List Outlet
  | [] => []
  | transport :: rest => outlets transport ++ outletsOf rest

end

variable (send : Outlet → Record → Effect World Unit)

mutual

/-- Hands a record to all outlets. -/
def deliver (transport : Transport Outlet) (record : Record) : Effect World Unit :=
  match transport with
  | .outlet target => send target record
  | .fanOut transports => deliverAll transports record

/-- Hands a record to transports in order. -/
def deliverAll (transports : List (Transport Outlet)) (record : Record) : Effect World Unit :=
  match transports with
  | [] => pure ()
  | transport :: rest => do
      deliver transport record
      deliverAll rest record

end

end Transport

end Logbook
