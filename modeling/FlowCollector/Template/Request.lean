import FlowCollector.Template.Store

/-!
# Asking the store

Every way of asking the store something, with what it answers. A removal tells what it removed, and an
announcement which template it replaces, so the answers show as much of the store as was changed and no
more.
-/

set_option autoImplicit false

namespace FlowCollector.Store

/-- What a store can be asked: what `Session` asks of it, one operation at a time. -/
inductive Request where
  | upsert (key : TemplateKey) (template : Template)
  | lookup (key : TemplateKey)
  | remove (key : TemplateKey)
  | removeDomain (exporter : IpAddress) (domain : UInt32)
  | setRate (key : SamplerKey) (rate : UInt64)
  | rate (key : SamplerKey)
  deriving DecidableEq, Repr

/-- What a store answers to a `Request`. -/
inductive Answer where
  /-- The template that is known under the key, or was until it was replaced. -/
  | template (known : Option Template)
  /-- Whether there was a template to remove under the key. -/
  | removed (known : Bool)
  /-- How many templates were removed with the domain. -/
  | removedCount (count : Nat)
  | rate (known : Option UInt64)
  | done
  deriving DecidableEq, Repr

/-- Answers a request as things stood before it, and changes what it asks to have changed. -/
def answer (store : Store) : Request → Answer × Store
  | .upsert key template => (.template (store.lookup? key), store.upsert key template)
  | .lookup key => (.template (store.lookup? key), store)
  | .remove key => (.removed (store.lookup? key).isSome, store.remove key)
  | .removeDomain exporter domain =>
    let after := store.removeDomain exporter domain
    (.removedCount (store.size - after.size), after)
  | .setRate key rate => (.done, store.setRate key rate)
  | .rate key => (.rate (store.rate? key), store)

/-- Answers requests by `answer`, one after another. -/
def answers (store : Store) : List Request → List Answer × Store
  | [] => ([], store)
  | request :: others =>
    let (first, store) := store.answer request
    let (rest, store) := store.answers others
    (first :: rest, store)

end FlowCollector.Store
