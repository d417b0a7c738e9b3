import HermesRpt.Common.Repository
import HermesRpt.Lib.EventLog

/-!
# HermesRpt.Common.AuditTrail

What an audit event says, for the services whose state can be read back from the trail.

* `aboutResource` : the id of the event's resource, when it is of a type.
* `detailText`    : a text among its details.
-/

namespace HermesRpt

def aboutResource (resourceType : String) (event : AuditEvent) : Option Uuid :=
  if event.resourceType = some resourceType then event.resourceId else none

def detailText (event : AuditEvent) (name : String) : Option String :=
  match event.details.lookup name with
  | some (some (.str text)) => some text
  | _ => none

theorem aboutResource_eq {resourceType : String} {event : AuditEvent}
    (h : event.resourceType = some resourceType) :
    aboutResource resourceType event = event.resourceId := if_pos h

theorem aboutResource_ne {resourceType : String} {event : AuditEvent}
    (h : event.resourceType ≠ some resourceType) : aboutResource resourceType event = none := if_neg h

end HermesRpt
