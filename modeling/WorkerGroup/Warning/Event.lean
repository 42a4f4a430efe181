/-
Warnings as log events.

An event is a list of named texts: the sentence, what was looked at, what was found
there and what is used instead.
-/
import WorkerGroup.Annotations
import WorkerGroup.Text.Quoted
import WorkerGroup.Warning

set_option autoImplicit false

namespace WorkerGroup.Warning

/-- The names of the families an annotation may name, as a list shown to a reader. -/
def allowedFamilies : String :=
  "[" ++ ", ".intercalate (OsFamily.all.map fun family => Text.quoted family.name) ++ "]"

/-- The fields of the event a warning is logged as. -/
def event (w : Warning) : List (String × String) :=
  ("message", w.message) ::
    match w with
    | unsupportedOsFamily value =>
      [("annotation", Annotations.osFamilyKey), ("value", value),
       ("allowed", allowedFamilies), ("default", OsFamily.fallback.name)]
    | invalidHostPods value =>
      [("annotation", Annotations.hostPodsKey), ("value", value),
       ("default", toString Annotations.defaultHostPods)]
    | missingNodeConfig family => [("os_family", family.name)]

end WorkerGroup.Warning
