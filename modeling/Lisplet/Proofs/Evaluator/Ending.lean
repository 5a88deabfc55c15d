import Lisplet.Proofs.Evaluator.Invariant

/-!
# How evaluations end

An evaluation that gives no result was stopped by the misuse of a form or by the limit on nesting,
and by nothing else, and absence is the value beside its failure. A text that cannot be read at run
time never stops it: only a script fails as a whole, before anything is evaluated. The misuse of a
form is announced by a warning. No form or operation goes on behind a misuse, so the warning is the
last message, and the only warning, of the evaluation.
-/

namespace Lisplet

/-! ### Ends and messages -/

/-- No warning is among the messages. -/
def Log.Quiet (records : List Log.Record) : Prop := ∀ r ∈ records, r.level ≠ .warn

/-- The messages since a log had given messages hold no warning. -/
def World.QuietSince (log : List Log.Record) (w : World) : Prop :=
  ∃ records, w.log = log ++ records ∧ Log.Quiet records

/-- How an evaluation is stopped that began when the log had given messages. -/
inductive Halted (p : Policies) (log : List Log.Record) : Stop → World → Prop
  | misuse (error : FormError) {w : World} (quiet : w.QuietSince log) :
    Halted p log (p.fatal.stop (.misuse error)) (w.noted p.level .warn error.message)
  | tooDeep (e : Value) {w : World} (quiet : w.QuietSince log) :
    Halted p log (.failed (.tooDeep p.limit e)) w

/-- At the beginning nothing has been logged. -/
theorem World.quietSince_self (w : World) : w.QuietSince w.log :=
  ⟨[], by simp, by simp [Log.Quiet]⟩

/-- A message other than a warning keeps it quiet. -/
theorem World.QuietSince.noted {log : List Log.Record} {w : World} (h : w.QuietSince log)
    (taken : Log.Level) {level : Log.Level} (hlevel : level ≠ .warn) (message : Text) :
    (w.noted taken level message).QuietSince log := by
  obtain ⟨records, hlog, hquiet⟩ := h
  refine ⟨records ++ if taken.takes level then [⟨level, message⟩] else [], ?_, ?_⟩
  · rw [World.log_noted, hlog, List.append_assoc]
  · intro r hr
    rcases List.mem_append.mp hr with hr | hr
    · exact hquiet r hr
    · split at hr
      · rw [List.mem_singleton.mp hr]
        exact hlevel
      · cases hr

variable {p : Policies} {env : ScopeId} {log : List Log.Record}

/-- The world in which an evaluation is stopped can be left by the evaluations around it. -/
theorem Halted.exited {s : Stop} {w : World} (h : Halted p log s w) :
    Halted p log s w.exited := by
  cases h with
  | @misuse error w hquiet =>
    have hnoted : (w.noted p.level .warn error.message).exited =
        w.exited.noted p.level .warn error.message := by
      unfold World.noted
      split <;> rfl
    rw [hnoted]
    exact .misuse error hquiet
  | tooDeep e hquiet => exact .tooDeep e hquiet

/-- The messages as a property that evaluations keep until they are stopped. -/
def quietly (p : Policies) (env : ScopeId) (log : List Log.Record) : Invariant p env where
  Good w := w.QuietSince log
  Result _ := True
  Stopped := Halted p log

/-- No warning is logged as long as no form is misused. -/
theorem quietly_lawful : (quietly p env log).Lawful where
  result_of_isInert _ := trivial
  result_of_lookup? _ _ := trivial
  noted message hquiet hlevel := hquiet.noted p.level hlevel message
  misused error hquiet := .misuse error hquiet
  defined _ _ hquiet _ := hquiet
  assigned _ _ hquiet _ := hquiet

/-- Counting evaluations logs nothing. -/
theorem quietly_nests : (quietly p env log).Nests where
  entered hquiet := hquiet
  exited hquiet := hquiet
  stopped hstopped := hstopped.exited
  tooDeep e hquiet := .tooDeep e hquiet

/-- An expression is evaluated without a warning until it is stopped. -/
theorem quietly_evaluate (e : Value) :
    (quietly p env log).Keeps (fun _ => True) (Registry.base.evaluate env e) :=
  quietly_lawful.evaluate quietly_nests e

/-- The same for code. -/
theorem quietly_evalText (code : Text) :
    (quietly p env log).Keeps (fun _ => True) (Registry.base.evalText env code) :=
  Invariant.keeps_iff.mpr <|
    quietly_lawful.diagonal.evalText fun e _ => Invariant.keeps_iff.mp (quietly_evaluate e)

/-- The same for a script that can be read. -/
theorem quietly_script {code : Text} {forms : List Value} (hforms : parseAll code = .ok forms) :
    (quietly p env log).Keeps (fun _ => True) (Registry.base.script env code) := by
  rw [Registry.script, Evaluator.script, hforms]
  have hself : ∀ e, (quietly p env log).diagonal.Simulates (fun _ => True)
      (Registry.base.evaluate env e) (Registry.base.evaluate env e) :=
    fun e => Invariant.keeps_iff.mp (quietly_evaluate e)
  have hnil : (quietly p env log).diagonal.Result .nil := trivial
  exact Invariant.keeps_iff.mpr (Simulation.inOrder (fun e _ => hself e) hnil)

/-- A script that cannot be read fails with the error of the reader, and nothing is done. -/
theorem script_of_error {code : Text} {error : ReadError} (herror : parseAll code = .error error)
    (r : Registry) (w : World) :
    r.script env code p w =
      (.failed ⟨.within (text "parse failed") (.unreadable error), .nil⟩, w) := by
  rw [Registry.script, Evaluator.script, herror]
  rfl

/-! ### Which failures there are -/

/-- An outcome that evaluating expressions can have under given policies. -/
structure Outcome.Classified (p : Policies) (o : Outcome Value) : Prop where
  /-- A failure is the misuse of a form, which the policy hands back, or a nesting beyond the limit.
  It is no error of the reader, and absence stands beside it. -/
  handed : ∀ result, o = .failed result →
    result.beside = .nil ∧ result.failure.readError? = none ∧
      ((p.fatal = .fail ∧ ∃ error, result.failure = .misuse error) ∨
        ∃ e, result.failure = .tooDeep p.limit e)
  /-- What breaks everything off is the misuse of a form, under the policy that does so. -/
  broken : ∀ failure, o = .aborted failure →
    p.fatal = .abort ∧ ∃ error, failure = .misuse error

/-- An evaluation that is stopped ends in one of the ways that are classified. -/
theorem Halted.classified {s : Stop} {w : World} (h : Halted p log s w) :
    (s.outcome : Outcome Value).Classified p := by
  cases h with
  | misuse error hquiet =>
    cases hfatal : p.fatal with
    | fail =>
      refine ⟨?_, fun failure hbroken => by cases hbroken⟩
      intro result hhanded
      cases hhanded
      exact ⟨rfl, rfl, .inl ⟨hfatal, error, rfl⟩⟩
    | abort =>
      refine ⟨fun result hhanded => (by cases hhanded), ?_⟩
      intro failure hbroken
      cases hbroken
      exact ⟨hfatal, error, rfl⟩
  | tooDeep e hquiet =>
    refine ⟨?_, fun failure hbroken => by cases hbroken⟩
    intro result hhanded
    cases hhanded
    exact ⟨rfl, rfl, .inr ⟨e, rfl⟩⟩

/-- An evaluation that is only stopped by misuse and nesting has a classified outcome. -/
theorem classified_of_keeps {x : Evaluation Value} {w : World}
    (hkeeps : (quietly p env w.log).Keeps (fun _ => True) x) : (x p w).1.Classified p := by
  have hends := hkeeps w.quietSince_self
  generalize x p w = out at hends
  cases hends with
  | value _ _ =>
    exact ⟨fun result hhanded => (by cases hhanded), fun failure hbroken => (by cases hbroken)⟩
  | stop hstopped => exact Halted.classified hstopped

/-- A script hands back an error of the reader exactly if its code cannot be read. -/
theorem script_unreadable_iff (code : Text) (w : World) (error : ReadError) :
    (∃ result, (Registry.base.script env code p w).1 = .failed result ∧
      result.failure.readError? = some error) ↔ parseAll code = .error error := by
  cases hcode : parseAll code with
  | error error' =>
    rw [script_of_error hcode]
    simp [Failure.readError?, Failure.cause]
  | ok forms =>
    have hkeeps : (quietly p env w.log).Keeps (fun _ => True) (Registry.base.script env code) :=
      quietly_script hcode
    have hclassified := classified_of_keeps hkeeps
    refine iff_of_false ?_ (by simp)
    rintro ⟨result, hfailed, hread⟩
    obtain ⟨-, hnone, -⟩ := hclassified.handed result hfailed
    rw [hnone] at hread
    cases hread

/-- Failures are classified. Evaluating an expression, or the first expression of a text, fails only
with the misuse of a form or with a nesting beyond the limit, and is broken off only with the misuse
of a form, each under its own policy. Absence stands beside a failure. No error of the reader comes
out, whatever text is read on the way. A script, also that of a session, hands back an error of the
reader exactly if its code as a whole cannot be read, and then nothing has happened. -/
theorem failures_classified (p : Policies) (env : ScopeId) (w : World) :
    (∀ e, (Registry.base.evaluate env e p w).1.Classified p) ∧
    (∀ code, (Registry.base.evalText env code p w).1.Classified p) ∧
    (∀ code, match parseAll code with
      | .ok _ => (Registry.base.script env code p w).1.Classified p
      | .error error => Registry.base.script env code p w =
          (.failed ⟨.within (text "parse failed") (.unreadable error), .nil⟩, w)) ∧
    (∀ code error,
      (∃ result, (Registry.base.script env code p w).1 = .failed result ∧
        result.failure.readError? = some error) ↔ parseAll code = .error error) ∧
    ∀ code error,
      (∃ result, ((Session.mk p .base env w).run code).1 = .failed result ∧
        result.failure.readError? = some error) ↔ parseAll code = .error error := by
  refine ⟨fun e => classified_of_keeps (quietly_evaluate e),
    fun code => classified_of_keeps (quietly_evalText code), fun code => ?_,
    fun code error => script_unreadable_iff code w error,
    fun code error => script_unreadable_iff code w error⟩
  cases hcode : parseAll code with
  | ok forms => exact classified_of_keeps (quietly_script hcode)
  | error error => exact script_of_error hcode .base w

/-! ### Warnings -/

/-- An outcome that delivers the misuse of a form, in whichever way. -/
def Outcome.Misuses {α : Type} (o : Outcome α) (error : FormError) : Prop :=
  (∃ beside, o = .failed ⟨.misuse error, beside⟩) ∨ o = .aborted (.misuse error)

/-- The messages of an evaluation tell how it ended: the misuse of a form is the text of the only
warning among them, which is the last message, and without a misuse there is no warning. -/
structure Outcome.Announced {α : Type} (o : Outcome α) (records : List Log.Record) : Prop where
  /-- A misuse is announced once, at the end. -/
  misuse : ∀ error, o.Misuses error →
    records.countP (fun r => r.level = .warn) = 1 ∧
      records.getLast? = some ⟨.warn, error.message⟩
  /-- Nothing else is announced. -/
  other : (∀ error, ¬ o.Misuses error) → records.countP (fun r => r.level = .warn) = 0

/-- There are no warnings where it is quiet. -/
theorem Log.Quiet.countP_eq_zero {records : List Log.Record} (h : Log.Quiet records) :
    records.countP (fun r => r.level = .warn) = 0 := by
  rw [List.countP_eq_zero]
  simpa [Log.Quiet] using h

/-- Under either policy an end for a misuse delivers this misuse. -/
theorem FatalPolicy.misuses_stop_iff {α : Type} (policy : FatalPolicy) {error error' : FormError} :
    ((policy.stop (.misuse error)).outcome : Outcome α).Misuses error' ↔ error' = error := by
  cases policy <;> simp [FatalPolicy.stop, Stop.outcome, Outcome.Misuses, eq_comm]

/-- Quiet messages announce an outcome that is no misuse. -/
theorem World.QuietSince.announced {α : Type} {o : Outcome α} {w : World}
    (h : w.QuietSince log) (hother : ∀ error, ¬ o.Misuses error) :
    ∃ records, w.log = log ++ records ∧ o.Announced records := by
  obtain ⟨records, hlog, hquiet⟩ := h
  exact ⟨records, hlog, fun error hmisuse => absurd hmisuse (hother error),
    fun _ => hquiet.countP_eq_zero⟩

/-- If warnings are logged, the messages tell how an evaluation was stopped. -/
theorem Halted.announced (hlevel : p.level.takes .warn = true) {s : Stop} {w : World}
    (h : Halted p log s w) :
    ∃ records, w.log = log ++ records ∧ (s.outcome : Outcome Value).Announced records := by
  cases h with
  | @misuse error w hquiet =>
    obtain ⟨records, hlog, hquiet⟩ := hquiet
    refine ⟨records ++ [⟨.warn, error.message⟩], ?_, ?_, ?_⟩
    · rw [World.log_noted, if_pos hlevel, hlog, List.append_assoc]
    · intro error' hmisuse
      rw [(p.fatal.misuses_stop_iff).mp hmisuse, List.countP_append, hquiet.countP_eq_zero]
      exact ⟨rfl, by simp⟩
    · intro hother
      exact absurd ((p.fatal.misuses_stop_iff).mpr rfl) (hother error)
  | tooDeep e hquiet => exact hquiet.announced (by simp [Stop.outcome, Outcome.Misuses])

/-- An evaluation that is quiet until it is stopped announces its end. -/
theorem announced_of_keeps (hlevel : p.level.takes .warn = true) {x : Evaluation Value} {w : World}
    (hkeeps : (quietly p env w.log).Keeps (fun _ => True) x) :
    ∃ records, (x p w).2.log = w.log ++ records ∧ (x p w).1.Announced records := by
  have hends := hkeeps w.quietSince_self
  generalize x p w = out at hends
  cases hends with
  | value _ hquiet => exact hquiet.announced (by simp [Outcome.Misuses])
  | stop hstopped => exact Halted.announced hlevel hstopped

/-- Evaluation fails fast and warns once. Where the log takes warnings, a call that ends with the
misuse of a form, handed back or broken off, has logged exactly one warning, which is the text of
the error and the last message of the call. A call that ends in any other way has logged none. -/
theorem call_announced (p : Policies) (hlevel : p.level.takes .warn = true) (env : ScopeId)
    (c : Call) (w : World) :
    ∃ records, (c.run Registry.base.evaluate env p w).2.log = w.log ++ records ∧
      (c.run Registry.base.evaluate env p w).1.Announced records := by
  cases c with
  | expression e => exact announced_of_keeps hlevel (quietly_evaluate e)
  | code t => exact announced_of_keeps hlevel (quietly_evalText t)
  | script t =>
    cases hcode : parseAll t with
    | ok forms => exact announced_of_keeps hlevel (quietly_script hcode)
    | error error =>
      have hscript : Registry.base.script env t p w = _ := script_of_error hcode Registry.base w
      rw [Registry.script] at hscript
      rw [Call.run, hscript]
      exact w.quietSince_self.announced (by simp [Outcome.Misuses])

/-- Whether an outcome hands back that a truth was assigned to a name without a binding. -/
def Outcome.refusesTruth (name : Text) : Outcome Value → Bool
  | .failed ⟨.misuse ⟨.assign, [.sym assigned, .bool true], .notBound unbound⟩, .nil⟩ =>
    assigned = name ∧ unbound = name
  | _ => false

/-- Such an outcome is told by its name. -/
theorem Outcome.eq_of_refusesTruth {o : Outcome Value} {name : Text}
    (h : o.refusesTruth name = true) :
    o = .failed ⟨.misuse ⟨.assign, [.sym name, .bool true], .notBound name⟩, .nil⟩ := by
  unfold refusesTruth at h
  split at h
  · obtain ⟨rfl, rfl⟩ := of_decide_eq_true h
    rfl
  · cases h

/-- A text that is read at run time assigns to a name without a binding: the warning follows a
message on another name, and the definition behind it is not reached. -/
theorem call_announced_assignment :
    (Log.Level.debug.takes .warn = true) ∧
    ((Call.script (text "y (do (eval \"(set x #t)\") (def z #t))")).run Registry.base.evaluate 0
      (.usual .debug) (Session.new (.usual .debug)).world).1 =
        .failed ⟨.misuse ⟨.assign, [.sym (text "x"), .bool true], .notBound (text "x")⟩, .nil⟩ ∧
    ∃ records, ((Call.script (text "y (do (eval \"(set x #t)\") (def z #t))")).run
        Registry.base.evaluate 0 (.usual .debug) (Session.new (.usual .debug)).world).2.log =
        records ∧ records.countP (fun r => r.level = .warn) = 1 ∧
      records.getLast? = some ⟨.warn, text "set: symbol is not bound: x in (set x #t)"⟩ := by
  have hends : ((Call.script (text "y (do (eval \"(set x #t)\") (def z #t))")).run
      Registry.base.evaluate 0 (.usual .debug) (Session.new (.usual .debug)).world).1 =
        .failed ⟨.misuse ⟨.assign, [.sym (text "x"), .bool true], .notBound (text "x")⟩, .nil⟩ :=
    Outcome.eq_of_refusesTruth (by decide +kernel)
  obtain ⟨records, hlog, hannounced⟩ := call_announced (.usual .debug) (by decide) 0
    (.script (text "y (do (eval \"(set x #t)\") (def z #t))")) (Session.new (.usual .debug)).world
  exact ⟨by decide, hends, records, hlog, hannounced.misuse _ (.inl ⟨_, hends⟩)⟩

end Lisplet
