import ExpenseLedger.Proofs.Engine.Mirror
import ExpenseLedger.Proofs.Web.Akin
/-!
# The site on mirroring backends

On backends that mirror others the site mirrors the site on the others: every request gets the same
response after the same time, and leaves the same counters and the same tally.
-/

open ExpenseLedger.Task

namespace ExpenseLedger.Web.Site

variable {σ τ α : Type} {forget : τ → σ} {b : Backends τ} {c : Backends σ}

/-- The site on a smaller state. -/
def map (forget : τ → σ) (x : Site τ) : Site σ := ⟨x.engine.map forget, x.tally⟩

/-- Tasks of the engine. -/
theorem mirrors_onEngine {t : Task (Engine τ) α} {u : Task (Engine σ) α}
    (h : Mirrors (Engine.map forget) t u) : Mirrors (map forget) (onEngine t) (onEngine u) :=
  h.focus (fun _ => rfl) fun _ _ => rfl

/-- Tasks of the backends. -/
theorem mirrors_onStore {t : Task τ α} {u : Task σ α} (h : Mirrors forget t u) :
    Mirrors (map forget) (onStore t) (onStore u) :=
  mirrors_onEngine (Engine.mirrors_onStore h)

/-- **Answering a request.** -/
theorem mirrors_handle (h : b.Mirrors forget c) (settings : EngineSettings) (timeout : Nat)
    (r : Request) :
    Mirrors (map forget) (handle b settings timeout r) (handle c settings timeout r) := by
  have hakin := akin_handle (fun _ _ _ => trivial) Engine.eq_of_isOwn (fun _ _ he => by rw [he])
    h.akin settings timeout r
  refine .of_akin hakin (fun _ => ⟨⟨rfl, rfl⟩, rfl⟩) ?_ fun _ _ hsame => hsame
  rintro ⟨⟨x, counters⟩, tally⟩ ⟨⟨s, _⟩, _⟩ ⟨⟨rfl, rfl⟩, rfl⟩
  rfl

end ExpenseLedger.Web.Site
