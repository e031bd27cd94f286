import RepoCensus.Json.Access
import RepoCensus.Settings.Options

/-!
# Settings by name

Conventions and options that are given by the names of their fields.
-/

namespace RepoCensus

open RepoCensus.Calendar RepoCensus.Numeral

namespace Conventions

/-- Sets the convention of a name, if there is one of that name. -/
def set? (c : Conventions) (name : String) (v : Json) : Option Conventions :=
  let s := v.text?.getD ""
  match name with
  | "remaining_header" => some { c with remainingHeader := s }
  | "reset_header" => some { c with resetHeader := s }
  | "limit_header" => some { c with limitHeader := s }
  | "resource_header" => some { c with resourceHeader := s }
  | "retry_after_header" => some { c with retryAfterHeader := s }
  | "etag_header" => some { c with etagHeader := s }
  | "last_modified_header" => some { c with lastModifiedHeader := s }
  | "link_header" => some { c with linkHeader := s }
  | "per_page_param" => some { c with perPageParam := s }
  | "max_per_page" => some { c with maxPerPage := v.whole?.getD c.maxPerPage }
  | "accept" => some { c with accept := s }
  | "api_version" => some { c with apiVersion := s }
  | "user_agent" => some { c with userAgent := s }
  | _ => none

/-- The usual conventions with some changes, if all names are known. -/
def ofNamed? (fields : List (String × Json)) : Option Conventions :=
  fields.foldlM (fun c (name, v) => c.set? name v) usual

def toJson (c : Conventions) : Json :=
  .obj [("remaining_header", .str c.remainingHeader), ("reset_header", .str c.resetHeader),
    ("limit_header", .str c.limitHeader), ("resource_header", .str c.resourceHeader),
    ("retry_after_header", .str c.retryAfterHeader), ("etag_header", .str c.etagHeader),
    ("last_modified_header", .str c.lastModifiedHeader), ("link_header", .str c.linkHeader),
    ("per_page_param", .str c.perPageParam), ("max_per_page", .int c.maxPerPage),
    ("accept", .str c.accept), ("api_version", .str c.apiVersion),
    ("user_agent", .str c.userAgent)]

end Conventions

/-! ## Options -/

def Amount.given (v : Json) : Given Amount :=
  match Amount.ofJson? v with
  | some a => .ok a
  | none => .error .badType

def Amount.given? : Json → Option (Given Amount)
  | .null => none
  | v => some (given v)

def Json.givenSeconds (v : Json) : Given Float :=
  match v with
  | .int n =>
    match Double.ofInt? n with
    | some s => .ok s
    | none => .error (.tooLarge .double)
  | v =>
    match v.double? with
    | some s => .ok s
    | none => .error .badType

namespace Changes

variable {τ : Type}

/-- Sets the option of a name, if there is one of that name; `seconds` reads numbers of seconds. Only
the limit on pages may be null. -/
def set? (seconds : Json → Given τ) (c : Changes τ) (name : String) (v : Json) :
    Option (Changes τ) :=
  match name with
  | "concurrency" => some { c with concurrency := some (Amount.given v) }
  | "max_retries" => some { c with maxRetries := some (Amount.given v) }
  | "page_ceiling" => some { c with pageCeiling := some (Amount.given v) }
  | "max_pages" => some { c with maxPages := Amount.given? v }
  | "per_page" => some { c with perPage := some (Amount.given v) }
  | "base_delay" => some { c with baseDelay := some (seconds v) }
  | "max_delay" => some { c with maxDelay := some (seconds v) }
  | "max_reset_wait" => some { c with maxResetWait := some (seconds v) }
  | "timeout" => some { c with timeout := some (seconds v) }
  | "safety_margin" => some { c with safetyMargin := some (Amount.given v) }
  | _ => none

/-- The changes that are given by their names, if all names are known. -/
def ofNamed? (seconds : Json → Given τ) (fields : List (String × Json)) : Option (Changes τ) :=
  fields.foldlM (fun c (name, v) => c.set? seconds name v) {}

end Changes

/-- The names of the options that are numbers of seconds. -/
def Options.secondsNames : List String := ["base_delay", "max_delay", "max_reset_wait", "timeout"]

/-- Looks at the numbers of seconds that are given by their names, before anything else: none may be
out of reach. -/
def checkReach {τ : Type} (seconds : Json → Given τ) (fields : List (String × Json)) :
    Except Anomaly Unit :=
  fields.forM fun (name, v) =>
    match Options.secondsNames.contains name, seconds v with
    | true, .error (.tooLarge bound) => .error (.tooLarge bound)
    | _, _ => .ok ()

/-- Options with changes that are given by their names, as long as they make sense. -/
def Options.changedByName {τ : Type} [Seconds τ] (seconds : Json → Given τ) (o : Options τ)
    (fields : List (String × Json)) : Except (Fault τ) (Options τ) := do
  Fault.lift (checkReach seconds fields)
  match Changes.ofNamed? seconds fields with
  | some c => o.changed c
  | none => .error (.anomaly .badType)

/-- The options by their names; `seconds` writes numbers of seconds. -/
def Options.toJson {τ : Type} (seconds : τ → Json) (o : Options τ) : Json :=
  .obj [("concurrency", o.concurrency.toJson), ("max_retries", o.maxRetries.toJson),
    ("page_ceiling", o.pageCeiling.toJson),
    ("max_pages", (o.maxPages.map Amount.toJson).getD .null),
    ("per_page", o.perPage.toJson), ("base_delay", seconds o.baseDelay),
    ("max_delay", seconds o.maxDelay), ("max_reset_wait", seconds o.maxResetWait),
    ("timeout", seconds o.timeout), ("safety_margin", o.safetyMargin.toJson)]

end RepoCensus
