/-!
# Transcripts

A machine takes calls one after the other and answers each of them. Its transcript holds the answers
and the state that it ends in. Two machines that match each other call by call answer alike
(`transcript_simulates`).
-/

namespace ExpenseLedger

variable {ι ρ σ τ : Type}

/-- The answers to some calls, and the state after the last of them. -/
def transcript (f : ι → σ → ρ × σ) : List ι → σ → List ρ × σ
  | [], s => ([], s)
  | c :: cs, s =>
    let r := f c s
    let rest := transcript f cs r.2
    (r.1 :: rest.1, rest.2)

/-- What two machines keep call by call, they keep to the end, however they answer. -/
theorem transcript_keeps {ρ' : Type} {f : ι → σ → ρ × σ} {g : ι → τ → ρ' × τ} {R : σ → τ → Prop}
    (hstep : ∀ c s t, R s t → R (f c s).2 (g c t).2) (cs : List ι) (s : σ) (t : τ) (h : R s t) :
    R (transcript f cs s).2 (transcript g cs t).2 := by
  induction cs generalizing s t with
  | nil => exact h
  | cons c cs ih => exact ih (f c s).2 (g c t).2 (hstep c s t h)

/-- **Machines that match each other call by call answer alike, and end in states that match.** -/
theorem transcript_simulates {f : ι → σ → ρ × σ} {g : ι → τ → ρ × τ} {R : σ → τ → Prop}
    (hstep : ∀ c s t, R s t → (f c s).1 = (g c t).1 ∧ R (f c s).2 (g c t).2)
    (cs : List ι) (s : σ) (t : τ) (h : R s t) :
    (transcript f cs s).1 = (transcript g cs t).1 ∧
      R (transcript f cs s).2 (transcript g cs t).2 := by
  refine ⟨?_, transcript_keeps (fun c s t h => (hstep c s t h).2) cs s t h⟩
  induction cs generalizing s t with
  | nil => rfl
  | cons c cs ih =>
    obtain ⟨hanswer, hnext⟩ := hstep c s t h
    simp only [transcript]
    rw [hanswer, ih (f c s).2 (g c t).2 hnext]

end ExpenseLedger
