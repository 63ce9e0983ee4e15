import FlowCollector.Proofs.Fold
import FlowCollector.Proofs.Store
import FlowCollector.Template.Request

/-!
# What requests leave in a store

A request changes what is known under some keys, and what it leaves there does not hang on what was known before. So
of a row of requests the last that touches a key decides what is known under it, and where none does it is what was
known at first. That is all there is to know of a row, since a store is known by what it finds: asking for the same row
a second time changes nothing more.
-/

set_option autoImplicit false

namespace FlowCollector.Store

namespace Request

/-- What the `Request` leaves under the key of a template, be it a template or nothing, if it touches the key. -/
def templateLeft? (request : Request) (key : TemplateKey) : Option (Option Template) :=
  match request with
  | .upsert own template => if key = own then some (some template) else none
  | .remove own => if key = own then some none else none
  | .removeDomain exporter domain => if key.exporter = exporter ∧ key.domain = domain then some none else none
  | .lookup _ | .setRate .. | .rate _ => none

/-- What the `Request` leaves under the key of a sampler, if it touches the key. None takes a rate away. -/
def rateLeft? (request : Request) (key : SamplerKey) : Option (Option UInt64) :=
  match request with
  | .setRate own given => if key = own then some (some given) else none
  | _ => none

end Request

variable (store : Store)

theorem lookup?_answer (request : Request) (key : TemplateKey) :
    (store.answer request).2.lookup? key = (request.templateLeft? key).getD (store.lookup? key) := by
  cases request with
  | upsert own template =>
    by_cases same : key = own
    · simp [answer, Request.templateLeft?, same]
    · simp [answer, Request.templateLeft?, same, lookup?_upsert_of_ne]
  | remove own =>
    by_cases same : key = own
    · simp [answer, Request.templateLeft?, same]
    · simp [answer, Request.templateLeft?, same, lookup?_remove_of_ne]
  | removeDomain exporter domain =>
    show (store.removeDomain exporter domain).lookup? key = _
    rw [lookup?_removeDomain]
    simp only [Request.templateLeft?]
    split <;> rfl
  | lookup _ => rfl
  | setRate _ _ => rfl
  | rate _ => rfl

theorem rate?_answer (request : Request) (key : SamplerKey) :
    (store.answer request).2.rate? key = (request.rateLeft? key).getD (store.rate? key) := by
  cases request with
  | setRate own rate =>
    by_cases same : key = own
    · simp [answer, Request.rateLeft?, same]
    · simp [answer, Request.rateLeft?, same, rate?_setRate_of_ne]
  | upsert _ _ => rfl
  | remove _ => rfl
  | removeDomain _ _ => rfl
  | lookup _ => rfl
  | rate _ => rfl

theorem answers_eq_foldl (requests : List Request) :
    (store.answers requests).2 = requests.foldl (fun before request => (before.answer request).2) store := by
  induction requests generalizing store with
  | nil => rfl
  | cons request others ih => exact ih (store.answer request).2

/-- The last request that touches a key (`templateLeft?`) decides, whatever was known before. -/
theorem lookup?_answers (requests : List Request) (key : TemplateKey) :
    (store.answers requests).2.lookup? key
      = (requests.filterMap (·.templateLeft? key)).getLast?.getD (store.lookup? key) := by
  rw [answers_eq_foldl]
  exact foldl_last (·.lookup? key) (fun before request => before.lookup?_answer request key) store requests

theorem rate?_answers (requests : List Request) (key : SamplerKey) :
    (store.answers requests).2.rate? key
      = (requests.filterMap (·.rateLeft? key)).getLast?.getD (store.rate? key) := by
  rw [answers_eq_foldl]
  exact foldl_last (·.rate? key) (fun before request => before.rate?_answer request key) store requests

/-- Asking by `answers` for the same again changes nothing, however the requests contradict each other on the way. -/
theorem answers_again (requests : List Request) :
    ((store.answers requests).2.answers requests).2 = (store.answers requests).2 := by
  apply eq_of_finds
  · intro key
    rw [lookup?_answers, lookup?_answers]
    cases (requests.filterMap (·.templateLeft? key)).getLast? <;> rfl
  · intro key
    rw [rate?_answers, rate?_answers]
    cases (requests.filterMap (·.rateLeft? key)).getLast? <;> rfl

end FlowCollector.Store
