import RcsMiddleware.Webhook.Deliveries

/-!
# Webhook — DedupeKeys

Which events share a dedupe key.  The key joins the task code and the method by a `:`, which either
may contain, and takes both as they come; the worker strips them.  So two texts of one event can
have two keys, and two events one key.

* `dedupeKey_eq_iff`: the payloads that share a key.
* `dedupe_key_identifies_iff`: the pairs of payloads on which the key and the worker agree.
-/

namespace Rcs

open Support Support.Text

namespace TaskFeedbackPayload

variable {p q : TaskFeedbackPayload}

/-- The worker sees one event: the task codes and the methods are the same after stripping. -/
def SameForWorker (p q : TaskFeedbackPayload) : Prop :=
  strip p.robotTaskCode = strip q.robotTaskCode ∧ strip p.method = strip q.method

/-- The task codes and methods differ, but only in the white space around them. -/
def Respaced (p q : TaskFeedbackPayload) : Prop := p.SameForWorker q ∧ ¬ p.SameEvent q

/-- A text that ends the task code of `q`, after a `:`, begins the method of `p` before a `:`; what
is left is the same. -/
def Shifted (p q : TaskFeedbackPayload) : Prop :=
  ∃ t, q.robotTaskCode = p.robotTaskCode ++ ":" ++ t ∧ p.method = t ++ ":" ++ q.method

theorem webhookDedupeKey_eq_iff {code method code' method' : String} :
    webhookDedupeKey code method = webhookDedupeKey code' method' ↔
      code ++ ":" ++ method = code' ++ ":" ++ method' := by
  have hassoc : ∀ code method : String,
      webhookDedupeKey code method = "webhook:dedupe:" ++ (code ++ ":" ++ method) :=
    fun code method => by
      show "webhook:dedupe:" ++ code ++ ":" ++ method = _
      rw [String.append_assoc, String.append_assoc, String.append_assoc]
  rw [hassoc, hassoc, String.append_right_inj]

/-- **The payloads that share a dedupe key.** -/
theorem dedupeKey_eq_iff :
    p.dedupeKey = q.dedupeKey ↔ p.SameEvent q ∨ p.Shifted q ∨ q.Shifted p :=
  webhookDedupeKey_eq_iff.trans (append_separator_eq_iff (c := ':') (by rfl))

theorem SameEvent.sameForWorker (h : p.SameEvent q) : p.SameForWorker q :=
  ⟨congrArg strip h.1, congrArg strip h.2⟩

/-- Two events that share a key by a shift are not the same for the worker: one task code has more
colons than the other, and stripping removes none. -/
theorem Shifted.not_sameForWorker (h : p.Shifted q) : ¬ p.SameForWorker q := by
  rintro ⟨hcode, -⟩
  obtain ⟨t, ht, -⟩ := h
  have hcount := congrArg (fun s : String => s.toList.count ':') hcode
  have hcolon : (":".toList).count ':' = 1 := by rfl
  simp only [count_strip (c := ':') (by decide), ht, String.toList_append, List.count_append,
    hcolon] at hcount
  omega

theorem SameForWorker.symm (h : p.SameForWorker q) : q.SameForWorker p := ⟨h.1.symm, h.2.symm⟩

/-- **The dedupe key identifies an event** as the worker does, on two payloads, exactly when they
differ neither in white space only nor by a shift over a `:`. -/
theorem dedupe_key_identifies_iff (p q : TaskFeedbackPayload) :
    (webhookDedupeKey p.robotTaskCode p.method = webhookDedupeKey q.robotTaskCode q.method ↔
        strip p.robotTaskCode = strip q.robotTaskCode ∧ strip p.method = strip q.method) ↔
      ¬ p.Respaced q ∧ ¬ p.Shifted q ∧ ¬ q.Shifted p := by
  show (p.dedupeKey = q.dedupeKey ↔ p.SameForWorker q) ↔ _
  rw [dedupeKey_eq_iff]
  constructor
  · intro h
    refine ⟨fun hspace => ?_, fun hshift => ?_, fun hshift => ?_⟩
    · rcases h.mpr hspace.1 with hsame | hshift | hshift
      · exact hspace.2 hsame
      · exact hshift.not_sameForWorker hspace.1
      · exact hshift.not_sameForWorker hspace.1.symm
    · exact hshift.not_sameForWorker (h.mp (.inr (.inl hshift)))
    · exact hshift.not_sameForWorker (h.mp (.inr (.inr hshift))).symm
  · rintro ⟨hspace, hpq, hqp⟩
    refine ⟨?_, fun hsame => .inl (by_contra fun hne => hspace ⟨hsame, hne⟩)⟩
    rintro (hsame | hshift | hshift)
    · exact hsame.sameForWorker
    · exact absurd hshift hpq
    · exact absurd hshift hqp

end TaskFeedbackPayload

/-- A feedback with a task code and a method. -/
def feedback (robotTaskCode method : String) (hcode : robotTaskCode ≠ "" := by decide)
    (hmethod : method ≠ "" := by decide) : TaskFeedbackPayload :=
  { robotTaskCode := robotTaskCode, method := method, robotTaskCode_nonempty := hcode,
    method_nonempty := hmethod }

/-- **Two events with one key**, and one event with two keys. -/
theorem dedupe_key_misidentifies :
    ((feedback "T1" "bin:end").dedupeKey = (feedback "T1:bin" "end").dedupeKey ∧
        ¬ (feedback "T1" "bin:end").SameForWorker (feedback "T1:bin" "end")) ∧
      (feedback "T1" "end").dedupeKey ≠ (feedback "T1 " "end").dedupeKey ∧
        (feedback "T1" "end").SameForWorker (feedback "T1 " "end") := by
  refine ⟨⟨by decide, ?_⟩, by decide, by decide, rfl⟩
  rintro ⟨hcode, -⟩
  exact absurd hcode (by decide)

end Rcs
