import CombatPlan.Log.Book

/-!
# The sinks of a log

The row of sinks belongs to the log and to its host, who adds and takes away sinks of its own wherever it likes. However
set-ups and such changes alternate, the log keeps no sink of its own but the one handed back last (`Reached.keeps`).
-/

namespace CombatPlan

theorem levelNumber_word (severity : Severity) : levelNumber severity.word = .ok severity.number := by
  cases severity <;> rfl

theorem LogSettings.Valid.exists_severity {s : LogSettings} (hs : s.Valid) :
    ∃ severity : Severity, severity.word = s.level := by
  have hlevel := hs.level_mem
  simp only [LogSettings.levels, List.mem_cons, List.not_mem_nil, or_false] at hlevel
  obtain h | h | h | h | h := hlevel
  · exact ⟨.debug, h.symm⟩
  · exact ⟨.info, h.symm⟩
  · exact ⟨.warning, h.symm⟩
  · exact ⟨.error, h.symm⟩
  · exact ⟨.critical, h.symm⟩

namespace LogBook

def ownSinks (b : LogBook) : List Sink :=
  b.sinks.filter (·.isOwn)

def hostSinks (b : LogBook) : List Sink :=
  b.sinks.filter (!·.isOwn)

inductive HostChange (b : LogBook) : LogBook → Prop where
  | add {front back : List Sink} {label : String} :
      b.sinks = front ++ back → HostChange b { b with sinks := front ++ .host label :: back }
  | remove {front back : List Sink} {label : String} :
      b.sinks = front ++ .host label :: back → HostChange b { b with sinks := front ++ back }

/-- `b` comes about from `b₀` by set-ups, which handed back `handed`, the latest first, and by changes of the host. -/
inductive Reached (b₀ : LogBook) : List Sink → LogBook → Prop where
  | start : Reached b₀ [] b₀
  | install {handed : List Sink} {b : LogBook} {s : LogSettings} {sink : Sink} :
      Reached b₀ handed b → s.Valid → (b.install s).2 = .ok sink → Reached b₀ (sink :: handed) (b.install s).1
  | host {handed : List Sink} {b b' : LogBook} : Reached b₀ handed b → HostChange b b' → Reached b₀ handed b'

structure Keeps (b : LogBook) (handed : List Sink) : Prop where
  latest : ∀ sink ∈ handed.head?, b.ownSinks = [sink]
  numbered : ∀ sink ∈ handed, ∃ i format, sink = .own i format ∧ i < b.setUps

/-! ## The host -/

theorem hostChange_addHost (b : LogBook) (label : String) : HostChange b (b.addHost label) :=
  .add (List.append_nil _).symm

theorem hostChange_removeHost {b : LogBook} {label : String} (h : .host label ∈ b.sinks) :
    HostChange b (b.removeHost label) := by
  obtain ⟨front, back, -, hsinks, herase⟩ := List.exists_erase_eq h
  unfold removeHost
  rw [herase]
  exact .remove hsinks

theorem HostChange.ownSinks_eq {b b' : LogBook} (h : HostChange b b') : b'.ownSinks = b.ownSinks := by
  unfold ownSinks
  cases h with
  | add hsinks =>
    rw [hsinks, List.filter_append, List.filter_append]
    rfl
  | remove hsinks =>
    rw [hsinks, List.filter_append, List.filter_append]
    rfl

theorem HostChange.setUps_eq {b b' : LogBook} (h : HostChange b b') : b'.setUps = b.setUps := by
  cases h <;> rfl

theorem Keeps.host {b b' : LogBook} {handed : List Sink} (hb : b.Keeps handed) (h : HostChange b b') :
    b'.Keeps handed where
  latest := by
    rw [h.ownSinks_eq]
    exact hb.latest
  numbered := by
    rw [h.setUps_eq]
    exact hb.numbered

/-! ## Set-ups -/

theorem install_of_word (b : LogBook) {s : LogSettings} {severity : Severity} (h : severity.word = s.level) :
    b.install s =
      ({ threshold := severity.number
         sinks := b.hostSinks ++ [.own b.setUps s.lineFormat]
         setUps := b.setUps + 1 }, .ok (.own b.setUps s.lineFormat)) := by
  unfold install
  rw [← h, levelNumber_word]
  rfl

theorem filter_own_hostSinks (b : LogBook) : b.hostSinks.filter (·.isOwn) = [] := by
  refine List.filter_eq_nil_iff.mpr fun sink hsink => ?_
  simpa using (List.mem_filter.mp hsink).2

theorem filter_host_hostSinks (b : LogBook) : b.hostSinks.filter (!·.isOwn) = b.hostSinks :=
  List.filter_eq_self.mpr fun _ hsink => (List.mem_filter.mp hsink).2

theorem ownSinks_install (b : LogBook) {s : LogSettings} (hs : s.Valid) :
    (b.install s).1.ownSinks = [.own b.setUps s.lineFormat] := by
  obtain ⟨severity, h⟩ := hs.exists_severity
  rw [b.install_of_word h]
  show (b.hostSinks ++ [_]).filter _ = _
  rw [List.filter_append, filter_own_hostSinks]
  rfl

theorem hostSinks_install (b : LogBook) {s : LogSettings} (hs : s.Valid) :
    (b.install s).1.hostSinks = b.hostSinks := by
  obtain ⟨severity, h⟩ := hs.exists_severity
  rw [b.install_of_word h]
  show (b.hostSinks ++ [_]).filter _ = _
  rw [List.filter_append, filter_host_hostSinks]
  exact List.append_nil _

theorem Keeps.install {b : LogBook} {handed : List Sink} (hb : b.Keeps handed) {s : LogSettings} (hs : s.Valid)
    {sink : Sink} (hsink : (b.install s).2 = .ok sink) : (b.install s).1.Keeps (sink :: handed) := by
  obtain ⟨severity, h⟩ := hs.exists_severity
  have hown := b.ownSinks_install hs
  rw [b.install_of_word h] at hsink hown ⊢
  cases hsink
  refine ⟨?_, ?_⟩
  · rintro _ ⟨⟩
    exact hown
  · -- the number of set-ups only grows, so no sink handed back comes twice
    refine List.forall_mem_cons.mpr ⟨⟨_, _, rfl, Nat.lt_succ_self _⟩, fun sink hsink => ?_⟩
    obtain ⟨i, format, rfl, hi⟩ := hb.numbered sink hsink
    exact ⟨i, format, rfl, Nat.lt_succ_of_lt hi⟩

/-! ## Set-ups and changes of the host in any order -/

theorem Reached.keeps {b₀ b : LogBook} {handed : List Sink} (h : Reached b₀ handed b) : b.Keeps handed := by
  induction h with
  | start => exact ⟨nofun, List.forall_mem_nil _⟩
  | install _ hs hsink ih => exact ih.install hs hsink
  | host _ hchange ih => exact ih.host hchange

/-- **One sink of its own.** However set-ups and changes of the host alternate, the sink handed back last is the only own
one. The next set-up hands back another one, behind the sinks of the host, which stay as they are. -/
theorem install_of_reached (b₀ b : LogBook) (handed : List Sink) (h : Reached b₀ handed b) :
    (∀ sink ∈ handed.head?, b.ownSinks = [sink]) ∧
      ∀ s : LogSettings, s.Valid → ∃ sink, (b.install s).2 = .ok sink ∧ sink ∉ handed ∧
        (b.install s).1.ownSinks = [sink] ∧
        (b.install s).1.hostSinks = b.hostSinks ∧
        (b.install s).1.sinks = b.hostSinks ++ [sink] ∧
        (∃ severity : Severity, severity.word = s.level ∧ (b.install s).1.threshold = severity.number) ∧
        ∀ r : LogRecord, r.time.isShowable = true →
          sink.write r = (if s.format = "json" then r.jsonLine else r.readableLine) ++ "\n" := by
  refine ⟨h.keeps.latest, fun s hs => ?_⟩
  obtain ⟨severity, hword⟩ := hs.exists_severity
  have heq := b.install_of_word hword
  refine ⟨.own b.setUps s.lineFormat, by rw [heq], ?_, b.ownSinks_install hs, b.hostSinks_install hs, by rw [heq],
    ⟨severity, hword, by rw [heq]⟩, fun r hr => ?_⟩
  · intro hmem
    obtain ⟨i, format, hsink, hi⟩ := h.keeps.numbered _ hmem
    cases hsink
    exact Nat.lt_irrefl _ hi
  · show (if r.time.isShowable = true then r.line s.lineFormat ++ "\n" else "") = _
    rw [if_pos hr]
    unfold LogSettings.lineFormat
    split <;> rfl

theorem install_of_reached_debug :
    let b₀ : LogBook := { sinks := [.own 5 .json, .host "screen", .own 2 .readable] }
    let b := (((b₀.install {}).1.addHost "file").install { level := "DEBUG", format := "json" }).1.removeHost "screen"
    let s : LogSettings := { level := "ERROR" }
    Reached b₀ [.own 1 .json, .own 0 .readable] b ∧ b.ownSinks = [.own 1 .json] ∧ s.Valid ∧
      ∃ sink, (b.install s).2 = .ok sink ∧ sink ∉ ([.own 1 .json, .own 0 .readable] : List Sink) ∧
        (b.install s).1.sinks = [.host "file", sink] ∧ (b.install s).1.threshold = 40 := by
  intro b₀ b s
  have hfirst : LogSettings.Valid {} := ⟨by decide, by decide⟩
  have hsecond : LogSettings.Valid { level := "DEBUG", format := "json" } := ⟨by decide, by decide⟩
  have hs : s.Valid := ⟨by decide, by decide⟩
  have hb : Reached b₀ [.own 1 .json, .own 0 .readable] b := by
    have hadded := (Reached.start.install hfirst rfl).host (hostChange_addHost (b₀.install {}).1 "file")
    exact (hadded.install hsecond rfl).host (hostChange_removeHost (by decide))
  obtain ⟨hlatest, hnext⟩ := install_of_reached b₀ b _ hb
  obtain ⟨sink, hsink, hnew, -, -, hsinks, ⟨severity, hword, hthreshold⟩, -⟩ := hnext s hs
  have herror : severity = .error := by
    cases severity <;> first | rfl | exact absurd hword (by decide)
  refine ⟨hb, hlatest _ rfl, hs, sink, hsink, hnew, hsinks, ?_⟩
  rw [hthreshold, herror]
  rfl

end LogBook
end CombatPlan
