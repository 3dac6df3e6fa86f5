import VersionGate.Proofs.Attributes
import VersionGate.Proofs.Wording

/-! What a span tells of the run within it, and what it lets through. A run that returned or was
interrupted ends outside the span as it did within, and so does one that failed, if its failure has a
text; a failure without one is replaced by what came of asking for it, when the span has taken up its
kind and nothing else. The span that is left behind holds all that was set on it, each name with what
was set last. -/
namespace VersionGate

namespace Run
variable {α : Type}

/-- How a run ended, what it ends with outside of the span around it, the status that tells of it,
and the attributes that are added for it. -/
inductive Ending : Except Failure α → Except Failure α → Span.Status → Fields → Prop where
  | returned {a : α} : Ending (.ok a) (.ok a) .ok []
  | raised {failure : Failure} {text : String}
      (other : ∀ wording, failure ≠ .fault .interrupt wording) (told : failure.print = .ok text) :
      Ending (.error failure) (.error failure) (.error failure.name)
        [("exception.type", .text failure.name), ("exception.message", .text text)]
  | replaced {failure inTurn : Failure} (other : ∀ wording, failure ≠ .fault .interrupt wording)
      (untold : failure.print = .error inTurn) :
      Ending (.error failure) (.error inTurn) (.error failure.name)
        [("exception.type", .text failure.name)]
  | interrupted {wording : Wording} :
      Ending (.error (.fault .interrupt wording)) (.error (.fault .interrupt wording)) .unset []

theorem ending_total (result : Except Failure α) :
    Ending result (passedOn result) (spanStatus result) (failureMarks result) := by
  cases result with
  | ok a => exact .returned
  | error failure =>
    by_cases interrupt : ∃ wording, failure = .fault .interrupt wording
    · obtain ⟨wording, rfl⟩ := interrupt
      exact .interrupted
    · have other : ∀ wording, failure ≠ .fault .interrupt wording := not_exists.mp interrupt
      have goesOn := Failure.isInterrupt_eq_false other
      have status : spanStatus (.error failure : Except Failure α) = .error failure.name := by
        rw [spanStatus, goesOn, if_neg Bool.false_ne_true]
      rw [status]
      cases print : failure.print with
      | ok text =>
        rw [failureMarks_of_text goesOn print, passedOn_of_text print]
        exact .raised other print
      | error inTurn =>
        rw [failureMarks_of_untold goesOn print, passedOn_of_untold goesOn print]
        exact .replaced other print

theorem Ending.named {result outside : Except Failure α} {status : Span.Status} {marks : Fields}
    (ended : Ending result outside status marks) : ∀ entry ∈ marks, entry.1 ≠ "" := by
  cases ended <;> simp

/-- All that is set on the span of a run, in turn. -/
def written (override : Bool) (extra : Fields) (body : Run α) : Fields :=
  ("k8s_version.override", .bool override) :: extra ++ body.marks ++ failureMarks body.outcome

theorem ne_of_mem_written {override : Bool} {extra : Fields} {body : Run α}
    (named : ∀ entry ∈ extra ++ body.marks, entry.1 ≠ "") :
    ∀ entry ∈ written override extra body, entry.1 ≠ "" := by
  have failureNamed := (ending_total body.outcome).named
  have flagNamed : ("k8s_version.override", Value.bool override).1 ≠ "" := by simp
  exact List.forall_mem_append.mpr
    ⟨List.forall_mem_cons.mpr ⟨flagNamed, named⟩, failureNamed⟩

/-- The attributes that a span starts with are settled before it is there, by another writer. -/
theorem leftBy_started (override : Bool) (extra : Fields) : Fields.LeftBy
    (Fields.putAll [(Span.overrideKey, .bool override)] extra)
    (("k8s_version.override", .bool override) :: extra) := by
  have flag : Fields.LeftBy [(Span.overrideKey, .bool override)]
      ([] ++ [("k8s_version.override", .bool override)]) :=
    Fields.LeftBy.nil.put (Span.overrideKey, .bool override)
  exact flag.putAll extra

/-- Settling the first attributes takes no name away and adds none, so what is set on the span in the
end stays within its limit as all that was written does. -/
theorem leftBy_written {override : Bool} {extra : Fields} {body : Run α}
    (named : ∀ entry ∈ extra ++ body.marks, entry.1 ≠ "")
    (room : ((written override extra body).map Prod.fst).dedup.length ≤ 128) :
    Fields.LeftBy
      ((Fields.putAll [(Span.overrideKey, .bool override)] extra ++ body.marks ++
        failureMarks body.outcome).foldl Span.put [])
      (written override extra body) := by
  have started := leftBy_started override extra
  have allNamed : "" ∉ ((written override extra body).map Prod.fst).dedup := by
    intro member
    obtain ⟨entry, entryMember, empty⟩ := List.mem_map.mp (List.mem_dedup.mp member)
    exact ne_of_mem_written named entry entryMember empty
  rw [written, List.append_assoc] at allNamed room ⊢
  rw [List.append_assoc]
  -- the span itself sees each name of its first attributes once, with the value settled for it
  apply started.resettle
  refine Span.leftBy_foldl_put allNamed ?_ room
  intro entry member
  rw [List.mem_dedup, List.map_append, List.mem_append]
  rcases List.mem_append.mp member with first | later
  · exact .inl (started.mem_names_iff.mp (List.mem_map_of_mem first))
  · exact .inr (List.mem_map_of_mem later)

/-- A span that ends within another one is seen outside of it as it is. -/
theorem spans_enclosed (run : Run α) :
    spans { run with effects := run.effects.filterMap enclosed } = run.spans := by
  rw [spans, spans, List.filterMap_filterMap]
  apply List.filterMap_congr
  intro effect _
  cases effect <;> rfl

/-- A run within a span leaves beside what it does exactly one span, the last of all. How it ended
tells its status and what goes on outside the span, which is the same as within unless there is a
failure to tell of and no text of it. Of the attributes the last that was set to a name counts: first
the override, then what the caller adds, then what the run sets, and then the kind and the text of a
failure that is no interrupt. -/
theorem span_transparent {override : Bool} {extra : Fields} {body : Run α}
    (named : ∀ entry ∈ extra ++ body.marks, entry.1 ≠ "")
    (room : ((written override extra body).map Prod.fst).dedup.length ≤ 128) :
    ∃ span,
      (withinSpan override extra body).effects = body.effects.filterMap enclosed ++ [.span span] ∧
      (withinSpan override extra body).spans = body.spans ++ [span] ∧
      span.name = "k8s_version.check" ∧ span.events = [] ∧
      Ending body.outcome (withinSpan override extra body).outcome span.status
        (failureMarks body.outcome) ∧
      ((withinSpan override extra body).outcome = body.outcome ↔ IsTold body.outcome) ∧
      span.attributes.LeftBy (written override extra body) := by
  refine ⟨_, rfl, ?_, rfl, rfl, ending_total _, passedOn_eq_self_iff, leftBy_written named room⟩
  rw [← spans_enclosed body]
  exact List.filterMap_append

/-- The caller sets the flag anew and a name that the failure takes back, and the run sets one name
twice before it fails. -/
theorem span_transparent_overruled :
    let extra : Fields :=
      [("k8s_version.override", .text "pinned"), ("exception.type", .text "none")]
    let failure : Failure := .ofText .value "bad version"
    let body : Run Unit := do
      mark "k8s_version.current" (.text "1.29")
      mark "exception.message" (.text "early")
      mark "k8s_version.current" (.text "1.29.0")
      fail failure
    ("exception.type", .text "none") ∈ extra ++ body.marks ∧
    (∀ entry ∈ extra ++ body.marks, entry.1 ≠ "") ∧
    ((written true extra body).map Prod.fst).dedup.length ≤ 128 ∧
    ∃ span, (withinSpan true extra body).outcome = .error failure ∧
      (withinSpan true extra body).effects = [.span span] ∧
      (withinSpan true extra body).spans = [span] ∧
      span.name = "k8s_version.check" ∧ span.events = [] ∧
      Ending (.error failure : Except Failure Unit) (.error failure) span.status
        [("exception.type", .text "ValueError"), ("exception.message", .text "bad version")] ∧
      span.attributes.LeftBy
        [("k8s_version.override", .bool true), ("k8s_version.override", .text "pinned"),
          ("exception.type", .text "none"), ("k8s_version.current", .text "1.29"),
          ("exception.message", .text "early"), ("k8s_version.current", .text "1.29.0"),
          ("exception.type", .text "ValueError"), ("exception.message", .text "bad version")] := by
  intro extra failure body
  have named : ∀ entry ∈ extra ++ body.marks, entry.1 ≠ "" := by decide
  have room : ((written true extra body).map Prod.fst).dedup.length ≤ 128 := by decide
  have told : IsTold body.outcome := by
    intro other failed _
    obtain rfl : failure = other := Except.error.inj failed
    exact ⟨"bad version", rfl⟩
  obtain ⟨span, effects, spans, name, events, ended, sameIff, attributes⟩ :=
    span_transparent named room
  exact ⟨List.mem_cons_of_mem _ List.mem_cons_self, named, room, span, sameIff.mpr told, effects,
    spans, name, events, ended, attributes⟩

/-- What becomes of a run that only fails, if its failure has no text: another failure is seen of it,
and the span tells of no message. -/
theorem replaced_of_untold {failure inTurn : Failure}
    (other : ∀ wording, failure ≠ .fault .interrupt wording)
    (untold : failure.print = .error inTurn) :
    (withinSpan false [] (fail failure : Run α)).outcome = .error inTurn ∧ inTurn ≠ failure ∧
    ∃ span, (withinSpan false [] (fail failure : Run α)).effects = [.span span] ∧
      span.status = .error failure.name ∧ span.attributes =
        [("k8s_version.override", .bool false), ("exception.type", .text failure.name)] := by
  have goesOn := Failure.isInterrupt_eq_false other
  refine ⟨passedOn_of_untold goesOn untold, Failure.ne_of_print_error untold, _, rfl, ?_, ?_⟩
  · show spanStatus (.error failure : Except Failure α) = _
    rw [spanStatus, goesOn, if_neg Bool.false_ne_true]
  · show (_ ++ failureMarks (.error failure : Except Failure α)).foldl Span.put [] = _
    rw [failureMarks_of_untold goesOn untold]
    rfl

/-- A value error over the least number that is too large to be written, and an error of the check
whose message is a number. Neither goes on outside the span, and the span takes up no message of
either. -/
theorem untold_failures_replaced :
    let large : Failure := .fault .value (.saying (.int (10 ^ Numeral.limit)))
    let numbered : Failure := .check (.general (.int 5) []) none
    let noText : Failure :=
      .ofText (.other "TypeError") "__str__ returned non-string (type int)"
    ((withinSpan false [] (fail large : Run Unit)).outcome = .error .tooLarge ∧
      Failure.tooLarge ≠ large ∧
      ∃ span, (withinSpan false [] (fail large : Run Unit)).effects = [.span span] ∧
        span.status = .error "ValueError" ∧ span.attributes =
          [("k8s_version.override", .bool false), ("exception.type", .text "ValueError")]) ∧
    (withinSpan false [] (fail numbered : Run Unit)).outcome = .error noText ∧
    noText ≠ numbered ∧
    ∃ span, (withinSpan false [] (fail numbered : Run Unit)).effects = [.span span] ∧
      span.status = .error "VersionCheckError" ∧ span.attributes =
        [("k8s_version.override", .bool false), ("exception.type", .text "VersionCheckError")] := by
  intro large numbered noText
  have unwritable : ¬ Numeral.isWritable (10 ^ Numeral.limit) = true := by
    rw [Numeral.isWritable_iff, Int.natAbs_pow, show Int.natAbs 10 = 10 from rfl]
    exact Nat.lt_irrefl _
  have untold : large.print = .error .tooLarge := by
    rw [Failure.print, Value.isWritable, if_neg unwritable]
  have largeOther : ∀ wording, large ≠ .fault .interrupt wording := by simp [large]
  have numberedOther : ∀ wording, numbered ≠ .fault .interrupt wording := by simp [numbered]
  exact ⟨replaced_of_untold largeOther untold, replaced_of_untold numberedOther rfl⟩

end Run

end VersionGate
