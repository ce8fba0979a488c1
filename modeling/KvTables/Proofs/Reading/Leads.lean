import KvTables.Reading.Basic

/-! Readings one of which succeeds at least where the other does.

What a reading says of a value that it refuses is left open here. Two readings that lead to the same
values log the same lines; those that never log anything can change places with any other.
-/

set_option autoImplicit false

namespace KvTables.Reading

variable {α β γ δ : Type}

/-- Wherever the first reading succeeds, the second does so too, with a related value, the same
lines and as many aliases followed. If the pair is quiet, both then only return their values,
whatever the files hold. -/
def Leads (quiet : Prop) (Like : α → β → Prop) (first : Reading α) (second : Reading β) : Prop :=
  ∀ files followed value, (first files followed).result = .ok value →
    ∃ other, Like value other ∧
      second files followed =
        ⟨.ok other, (first files followed).log, (first files followed).followed⟩ ∧
      (quiet → first = pure value ∧ second = pure other)

def Fails (reading : Reading α) : Prop :=
  ∀ files followed value, (reading files followed).result ≠ .ok value

theorem fails_mismatch (cause : Mismatch) : Fails (mismatch cause : Reading α) :=
  fun _ _ _ ok => nomatch ok

theorem fails_broken (cause : SyntaxError) : Fails (broken cause : Reading α) :=
  fun _ _ _ ok => nomatch ok

/-- A success of two readings in turn is one of the first and then one of the second. -/
theorem bind_ok {first : Reading α} {next : α → Reading β} {files : Files} {followed : Nat}
    {result : β} (ok : ((first >>= next) files followed).result = .ok result) :
    ∃ value, (first files followed).result = .ok value ∧
      (next value files (first files followed).followed).result = .ok result ∧
      (first >>= next) files followed = ⟨.ok result,
        (first files followed).log ++ (next value files (first files followed).followed).log,
        (next value files (first files followed).followed).followed⟩ := by
  change ((first.andThen next) files followed).result = .ok result at ok
  change ∃ value, _ ∧ _ ∧ (first.andThen next) files followed = _
  cases same : (first files followed).result with
  | error fault => simp [andThen, same] at ok
  | ok value =>
    simp only [andThen, same] at ok
    exact ⟨value, rfl, ok, by simp only [andThen, same, ok]⟩

theorem bind_of_ok {first : Reading α} {next : α → Reading β} {files : Files}
    {followed later last : Nat} {value : α} {result : β} {log more : List Log.Line}
    (one : first files followed = ⟨.ok value, log, later⟩)
    (two : next value files later = ⟨.ok result, more, last⟩) :
    (first >>= next) files followed = ⟨.ok result, log ++ more, last⟩ := by
  change (first.andThen next) files followed = _
  simp only [andThen, one, two]

theorem bind_at_ok {first : Reading α} {next : α → Reading β} {files : Files} {followed later : Nat}
    {value : α} {log : List Log.Line} (found : first files followed = ⟨.ok value, log, later⟩) :
    (first >>= next) files followed = ⟨(next value files later).result,
      log ++ (next value files later).log, (next value files later).followed⟩ := by
  change first.andThen next files followed = _
  simp only [andThen, found]

theorem bind_at_error {first : Reading α} {next : α → Reading β} {files : Files}
    {followed later : Nat} {fault : Fault} {log : List Log.Line}
    (failed : first files followed = ⟨.error fault, log, later⟩) :
    (first >>= next) files followed = ⟨.error fault, log, later⟩ := by
  change first.andThen next files followed = _
  simp only [andThen, failed]

theorem Fails.bind {first : Reading α} (fails : Fails first) (next : α → Reading β) :
    Fails (first >>= next) := by
  intro files followed result ok
  obtain ⟨value, okFirst, -, -⟩ := bind_ok ok
  exact fails files followed value okFirst

theorem Fails.of_next {first : Reading α} {next : α → Reading β}
    (fails : ∀ value, Fails (next value)) : Fails (first >>= next) := by
  intro files followed result ok
  obtain ⟨value, -, okNext, -⟩ := bind_ok ok
  exact fails value _ _ _ okNext

theorem ok_of_onFault {reading : Reading α} {change : Fault → Fault} {files : Files} {followed : Nat}
    {value : α} (ok : (reading.onFault change files followed).result = .ok value) :
    (reading files followed).result = .ok value := by
  change (reading files followed).result.mapError change = .ok value at ok
  cases same : (reading files followed).result with
  | error fault =>
    rw [same] at ok
    cases ok
  | ok found =>
    rw [same] at ok
    exact ok

theorem Fails.onFault {reading : Reading α} (fails : Fails reading) (change : Fault → Fault) :
    Fails (reading.onFault change) :=
  fun files followed value ok => fails files followed value (ok_of_onFault ok)

namespace Leads

variable {quiet other : Prop} {Like : α → β → Prop} {Then : γ → δ → Prop}

theorem of_fails {first : Reading α} {second : Reading β} (fails : Fails first) :
    Leads quiet Like first second :=
  fun files followed value ok => absurd ok (fails files followed value)

protected theorem pure {value : α} {result : β} (like : Like value result) :
    Leads quiet Like (pure value) (pure result) := by
  intro files followed returned ok
  obtain rfl : value = returned := Except.ok.inj ok
  exact ⟨result, like, rfl, fun _ => ⟨rfl, rfl⟩⟩

protected theorem refl (reading : Reading α) : Leads False Eq reading reading := by
  intro files followed value ok
  exact ⟨value, rfl, by rw [← ok], False.elim⟩

protected theorem bind {first : Reading α} {second : Reading β} {next : α → Reading γ}
    {after : β → Reading δ} (leads : Leads quiet Like first second)
    (goesOn : ∀ value result, Like value result → Leads quiet Then (next value) (after result)) :
    Leads quiet Then (first >>= next) (second >>= after) := by
  intro files followed result ok
  obtain ⟨value, okFirst, okNext, outcome⟩ := bind_ok ok
  obtain ⟨found, like, same, silent⟩ := leads files followed value okFirst
  obtain ⟨final, alike, sameNext, silentNext⟩ := goesOn value found like _ _ _ okNext
  refine ⟨final, alike, ?_, fun still => ?_⟩
  · rw [bind_of_ok same sameNext, outcome]
  · obtain ⟨rfl, rfl⟩ := silent still
    obtain ⟨one, two⟩ := silentNext still
    exact ⟨one, two⟩

theorem mono {first : Reading α} {second : Reading β} {Wider : α → β → Prop}
    (leads : Leads quiet Like first second) (louder : other → quiet)
    (wider : ∀ value result, Like value result → Wider value result) :
    Leads other Wider first second := by
  intro files followed value ok
  obtain ⟨found, like, same, silent⟩ := leads files followed value ok
  exact ⟨found, wider value found like, same, fun still => silent (louder still)⟩

/-- A quiet pair may be used where logging is allowed. -/
theorem louder {first : Reading α} {second : Reading β} (leads : Leads True Like first second) :
    Leads quiet Like first second :=
  leads.mono (fun _ => trivial) fun _ _ like => like

theorem map {first : Reading α} {second : Reading β} (leads : Leads quiet Like first second)
    {f : α → γ} {g : β → δ} (carries : ∀ value result, Like value result → Then (f value) (g result)) :
    Leads quiet Then (f <$> first) (g <$> second) := by
  rw [map_eq_pure_bind, map_eq_pure_bind]
  exact leads.bind fun value result like => .pure (carries value result like)

theorem trans {first second third : Reading α} (leads : Leads quiet Eq first second)
    (further : Leads quiet Eq second third) : Leads quiet Eq first third := by
  intro files followed value ok
  obtain ⟨_, rfl, same, silent⟩ := leads files followed value ok
  obtain ⟨_, rfl, sameThird, silentThird⟩ := further files followed value (by rw [same])
  refine ⟨value, rfl, by rw [sameThird, same], fun still => ?_⟩
  exact ⟨(silent still).1, (silentThird still).2⟩

/-- A way round is as quiet as its start and its end. -/
theorem detour {first second third : Reading α} (start : Leads quiet Eq first first)
    (leads : Leads False Eq first second) (further : Leads quiet Eq second third) :
    Leads quiet Eq first third := by
  intro files followed value ok
  obtain ⟨_, rfl, same, -⟩ := leads files followed value ok
  obtain ⟨_, rfl, sameThird, silentThird⟩ := further files followed value (by rw [same])
  refine ⟨value, rfl, by rw [sameThird, same], fun still => ?_⟩
  obtain ⟨_, rfl, -, silent⟩ := start files followed value ok
  exact ⟨(silent still).1, (silentThird still).2⟩

/-- What leads quietly to anything is quiet itself. -/
theorem left {first : Reading α} {second : Reading β} (leads : Leads quiet Like first second) :
    Leads quiet Eq first first := by
  intro files followed value ok
  obtain ⟨_, -, -, silent⟩ := leads files followed value ok
  exact ⟨value, rfl, by rw [← ok], fun still => ⟨(silent still).1, (silent still).1⟩⟩

/-- Faults may be reported differently. -/
theorem onFault {first : Reading α} {second : Reading β} (leads : Leads quiet Like first second)
    (change report : Fault → Fault) :
    Leads quiet Like (first.onFault change) (second.onFault report) := by
  intro files followed value ok
  obtain ⟨found, like, same, silent⟩ := leads files followed value (ok_of_onFault ok)
  refine ⟨found, like, ?_, fun still => ?_⟩
  · simp only [Reading.onFault, same]
    rfl
  · obtain ⟨rfl, rfl⟩ := silent still
    exact ⟨rfl, rfl⟩

/-- A whole reading succeeds with the same lines. -/
theorem run_eq {first second : Reading α} (leads : Leads quiet Eq first second) {files : Files}
    {value : α} (ok : (first.run files).value = .ok value) : second.run files = first.run files := by
  change (first files 0).result = .ok value at ok
  obtain ⟨_, rfl, same, -⟩ := leads files 0 value ok
  change Logged.mk (second files 0).result (second files 0).log =
    Logged.mk (first files 0).result (first files 0).log
  rw [same, ok]

end Leads

end KvTables.Reading
