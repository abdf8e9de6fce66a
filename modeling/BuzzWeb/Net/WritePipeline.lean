import BuzzWeb.Library.EventMachine

/-!
# The write pipeline of a session

The transport half of `net/Session`, as far as writing goes: the posted `Send` and `Close` tasks,
`DoWrite`, the completion of a write, and `Fail`.  Messages are of any type.

The source keeps no flag for a write in progress.  `Send` takes a non-empty queue for one, and the
completion pops the queue and starts the next write.  `outstanding` lists the messages of the
`async_write` operations that were started and have not completed; that there is never more than
one of them, and that it writes the front of the queue, is what the pipeline invariant says.
-/

namespace BuzzWeb
namespace Net

/-- What `boost::asio::post` hands to the executor of a session. -/
inductive Task (μ : Type) where
  | send (message : μ)
  | close
deriving DecidableEq, Repr

/-- `closing_`, `write_queue_`, the writes in progress, and the posted tasks, oldest first. -/
structure WritePipeline (μ : Type) where
  closing : Bool
  writeQueue : List μ
  outstanding : List μ
  posted : List (Task μ)
deriving DecidableEq, Repr

namespace WritePipeline

variable {μ : Type}

/-- A session that was just constructed. -/
def fresh : WritePipeline μ := ⟨false, [], [], []⟩

def post (pipeline : WritePipeline μ) (task : Task μ) : WritePipeline μ :=
  { pipeline with posted := pipeline.posted ++ [task] }

/-- Start a write of the front message, unless there is none or the session is closing. -/
def doWrite (pipeline : WritePipeline μ) : WritePipeline μ :=
  match pipeline.writeQueue with
  | [] => pipeline
  | front :: _ =>
      if pipeline.closing then pipeline
      else { pipeline with outstanding := pipeline.outstanding ++ [front] }

/-- The task that `Send` posts. -/
def runSend (pipeline : WritePipeline μ) (message : μ) : WritePipeline μ :=
  let writing := !pipeline.writeQueue.isEmpty
  let queued := { pipeline with writeQueue := pipeline.writeQueue ++ [message] }
  if writing then queued else queued.doWrite

/-- The flag part of `Fail`, and of the task that `Close` posts. -/
def fail (pipeline : WritePipeline μ) : WritePipeline μ :=
  { pipeline with closing := true }

def runTask (pipeline : WritePipeline μ) : Task μ → WritePipeline μ
  | .send message => pipeline.runSend message
  | .close => pipeline.fail

/-- The completion handler of a write. -/
def onWrite (pipeline : WritePipeline μ) (error : Bool) : WritePipeline μ :=
  if error then pipeline.fail
  else
    let popped := { pipeline with writeQueue := pipeline.writeQueue.tail }
    if popped.writeQueue.isEmpty then popped else popped.doWrite

/-! ## The pipeline as a machine -/

/-- What can happen to the pipeline of one session. -/
inductive Event (μ : Type) where
  | post (task : Task μ)
  | runPosted
  | writeCompleted (index : Nat) (error : Bool)
  | readFailed
  | readClosed
deriving DecidableEq, Repr

/-- What is recorded of a run: a message was given to `Send`, its task ran, or its write
succeeded. -/
inductive Record (μ : Type) where
  | posted (message : μ)
  | queued (message : μ)
  | written (message : μ)
deriving DecidableEq, Repr

namespace Record

def posted? : Record μ → Option μ
  | .posted message => some message
  | _ => none

def queued? : Record μ → Option μ
  | .queued message => some message
  | _ => none

def written? : Record μ → Option μ
  | .written message => some message
  | _ => none

end Record

def taskMessage? : Task μ → Option μ
  | .send message => some message
  | .close => none

def recordPost : Task μ → List (Record μ)
  | .send message => [.posted message]
  | .close => []

def recordRun : Task μ → List (Record μ)
  | .send message => [.queued message]
  | .close => []

/-- Any outstanding write may complete, with or without an error; posted tasks run in post order;
a read may fail or find the connection closed at any time. -/
def machine (μ : Type) : EventMachine (WritePipeline μ) (Event μ) (Record μ) where
  init := fresh
  step pipeline event :=
    match event with
    | .post task => some (pipeline.post task, recordPost task)
    | .runPosted =>
        match pipeline.posted with
        | [] => none
        | task :: rest => some ({ pipeline with posted := rest }.runTask task, recordRun task)
    | .writeCompleted index error =>
        match pipeline.outstanding[index]? with
        | none => none
        | some message =>
            some ({ pipeline with
                outstanding := pipeline.outstanding.eraseIdx index }.onWrite error,
              if error then [] else [.written message])
    | .readFailed => some (pipeline.fail, [])
    | .readClosed => some (pipeline, [])

/-- The messages given to `Send`, in order. -/
def postedMessages (history : List (EventMachine.Step (WritePipeline μ) (Event μ) (Record μ))) :
    List μ :=
  (EventMachine.trace history).filterMap Record.posted?

/-- The messages whose `Send` task has run, in order. -/
def queuedMessages (history : List (EventMachine.Step (WritePipeline μ) (Event μ) (Record μ))) :
    List μ :=
  (EventMachine.trace history).filterMap Record.queued?

/-- The messages whose write succeeded, in order. -/
def writtenMessages (history : List (EventMachine.Step (WritePipeline μ) (Event μ) (Record μ))) :
    List μ :=
  (EventMachine.trace history).filterMap Record.written?

/-- The messages of the tasks that have not run yet. -/
def waitingMessages (pipeline : WritePipeline μ) : List μ :=
  pipeline.posted.filterMap taskMessage?

/-! ## The invariant -/

/-- At most one write is in progress, of the front message; and none is missing. -/
structure Sound (pipeline : WritePipeline μ) : Prop where
  writing : pipeline.outstanding = [] ∨
    ∃ front rest, pipeline.writeQueue = front :: rest ∧ pipeline.outstanding = [front]
  progress : pipeline.closing = false → pipeline.writeQueue ≠ [] → pipeline.outstanding ≠ []

@[simp] theorem doWrite_writeQueue (pipeline : WritePipeline μ) :
    pipeline.doWrite.writeQueue = pipeline.writeQueue := by
  unfold doWrite
  split
  · rfl
  · split_ifs <;> rfl

@[simp] theorem doWrite_posted (pipeline : WritePipeline μ) :
    pipeline.doWrite.posted = pipeline.posted := by
  unfold doWrite
  split
  · rfl
  · split_ifs <;> rfl

@[simp] theorem runSend_writeQueue (pipeline : WritePipeline μ) (message : μ) :
    (pipeline.runSend message).writeQueue = pipeline.writeQueue ++ [message] := by
  unfold runSend
  dsimp only
  split_ifs <;> simp

@[simp] theorem runSend_posted (pipeline : WritePipeline μ) (message : μ) :
    (pipeline.runSend message).posted = pipeline.posted := by
  unfold runSend
  dsimp only
  split_ifs <;> simp

@[simp] theorem onWrite_posted (pipeline : WritePipeline μ) (error : Bool) :
    (pipeline.onWrite error).posted = pipeline.posted := by
  cases error with
  | true => rfl
  | false =>
      simp only [onWrite, Bool.false_eq_true, if_false]
      split_ifs <;> simp

theorem onWrite_writeQueue (pipeline : WritePipeline μ) :
    (pipeline.onWrite false).writeQueue = pipeline.writeQueue.tail := by
  simp only [onWrite, Bool.false_eq_true, if_false]
  split_ifs <;> simp

/-- `DoWrite` is only called when no write is in progress, and it restores the invariant. -/
theorem sound_doWrite {pipeline : WritePipeline μ} (hidle : pipeline.outstanding = []) :
    pipeline.doWrite.Sound := by
  unfold doWrite
  split
  · next hempty => exact ⟨Or.inl hidle, fun _ hne => absurd hempty hne⟩
  · next front rest hqueue =>
      split_ifs with hclosing
      · exact ⟨Or.inl hidle, fun hopen _ => absurd hopen (by simp [hclosing])⟩
      · exact ⟨Or.inr ⟨front, rest, hqueue, by simp [hidle]⟩, fun _ _ => by simp⟩

theorem Sound.idle_of_empty {pipeline : WritePipeline μ} (hsound : pipeline.Sound)
    (hempty : pipeline.writeQueue = []) : pipeline.outstanding = [] := by
  rcases hsound.writing with hidle | ⟨front, rest, hqueue, -⟩
  · exact hidle
  · rw [hempty] at hqueue
    cases hqueue

theorem Sound.post {pipeline : WritePipeline μ} (hsound : pipeline.Sound) (task : Task μ) :
    (pipeline.post task).Sound :=
  ⟨hsound.writing, hsound.progress⟩

theorem Sound.dropTask {pipeline : WritePipeline μ} (hsound : pipeline.Sound)
    (rest : List (Task μ)) : WritePipeline.Sound { pipeline with posted := rest } :=
  ⟨hsound.writing, hsound.progress⟩

theorem Sound.fail {pipeline : WritePipeline μ} (hsound : pipeline.Sound) :
    pipeline.fail.Sound :=
  ⟨hsound.writing, fun hopen => by cases hopen⟩

theorem Sound.runSend {pipeline : WritePipeline μ} (hsound : pipeline.Sound) (message : μ) :
    (pipeline.runSend message).Sound := by
  unfold WritePipeline.runSend
  dsimp only
  cases hqueue : pipeline.writeQueue with
  | nil =>
      -- An empty queue means that nothing is being written, so the new front may be.
      simp only [List.isEmpty_nil, Bool.not_true, Bool.false_eq_true, if_false]
      exact sound_doWrite (hsound.idle_of_empty hqueue)
  | cons front rest =>
      simp only [List.isEmpty_cons, Bool.not_false, if_true]
      have hbusy : pipeline.writeQueue ≠ [] := by simp [hqueue]
      refine ⟨?_, fun hopen _ => hsound.progress hopen hbusy⟩
      rcases hsound.writing with hidle | ⟨front', rest', hqueue', hwrite⟩
      · exact Or.inl hidle
      · rw [hqueue] at hqueue'
        obtain ⟨rfl, rfl⟩ := List.cons.inj hqueue'
        exact Or.inr ⟨front, rest ++ [message], rfl, hwrite⟩

theorem Sound.runTask {pipeline : WritePipeline μ} (hsound : pipeline.Sound) (task : Task μ) :
    (pipeline.runTask task).Sound := by
  cases task with
  | send message => exact hsound.runSend message
  | close => exact hsound.fail

/-- A completed write was of the front message, and it was the only one. -/
theorem Sound.completed {pipeline : WritePipeline μ} (hsound : pipeline.Sound) {index : Nat}
    {message : μ} (hwrite : pipeline.outstanding[index]? = some message) :
    pipeline.outstanding.eraseIdx index = [] ∧
      ∃ rest, pipeline.writeQueue = message :: rest := by
  rcases hsound.writing with hidle | ⟨front, rest, hqueue, houtstanding⟩
  · simp [hidle] at hwrite
  · rw [houtstanding, List.getElem?_singleton] at hwrite
    split_ifs at hwrite with hindex
    obtain rfl := Option.some.inj hwrite
    subst hindex
    exact ⟨by simp [houtstanding], rest, hqueue⟩

theorem sound_onWrite {pipeline : WritePipeline μ} (hidle : pipeline.outstanding = [])
    (error : Bool) : (pipeline.onWrite error).Sound := by
  cases error with
  | true => exact ⟨Or.inl hidle, fun hopen => by cases hopen⟩
  | false =>
      simp only [onWrite, Bool.false_eq_true, if_false]
      split_ifs with hempty
      · exact ⟨Or.inl hidle, fun _ hne => absurd (List.isEmpty_iff.mp hempty) hne⟩
      · exact sound_doWrite hidle

/-- Every step of the machine keeps the invariant. -/
theorem Sound.step {pipeline pipeline' : WritePipeline μ} {event : Event μ}
    {records : List (Record μ)} (hsound : pipeline.Sound)
    (hstep : (machine μ).step pipeline event = some (pipeline', records)) : pipeline'.Sound := by
  cases event with
  | post task =>
      obtain ⟨rfl, -⟩ := Prod.mk.inj (Option.some.inj hstep)
      exact hsound.post task
  | runPosted =>
      simp only [machine] at hstep
      split at hstep
      · cases hstep
      · next task rest hposted =>
          obtain ⟨rfl, -⟩ := Prod.mk.inj (Option.some.inj hstep)
          exact (hsound.dropTask rest).runTask task
  | writeCompleted index error =>
      simp only [machine] at hstep
      split at hstep
      · cases hstep
      · next message hwrite =>
          obtain ⟨rfl, -⟩ := Prod.mk.inj (Option.some.inj hstep)
          -- The completed write was the only one, so nothing is in progress now.
          exact sound_onWrite (hsound.completed hwrite).1 error
  | readFailed =>
      obtain ⟨rfl, -⟩ := Prod.mk.inj (Option.some.inj hstep)
      exact hsound.fail
  | readClosed =>
      obtain ⟨rfl, -⟩ := Prod.mk.inj (Option.some.inj hstep)
      exact hsound

theorem sound_of_run {history : List (EventMachine.Step (WritePipeline μ) (Event μ) (Record μ))}
    {pipeline : WritePipeline μ} (hrun : (machine μ).Run history pipeline) : pipeline.Sound :=
  hrun.stateInvariant ⟨Or.inl rfl, fun _ hne => absurd rfl hne⟩
    fun _ _ _ _ hsound hstep => hsound.step hstep

/-! ## Nothing is lost, duplicated or reordered -/

/-- Written messages and the queue make up the messages whose task ran; with the waiting tasks
they make up everything posted. -/
structure Conserved (history : List (EventMachine.Step (WritePipeline μ) (Event μ) (Record μ)))
    (pipeline : WritePipeline μ) : Prop where
  queued : writtenMessages history ++ pipeline.writeQueue = queuedMessages history
  posted : queuedMessages history ++ pipeline.waitingMessages = postedMessages history

/-- What one step adds to the records, and how the queue and the waiting tasks pay for it. -/
theorem step_accounts {pipeline pipeline' : WritePipeline μ} {event : Event μ}
    {records : List (Record μ)} (hsound : pipeline.Sound)
    (hstep : (machine μ).step pipeline event = some (pipeline', records)) :
    records.filterMap Record.written? ++ pipeline'.writeQueue =
        pipeline.writeQueue ++ records.filterMap Record.queued? ∧
      records.filterMap Record.queued? ++ pipeline'.waitingMessages =
        pipeline.waitingMessages ++ records.filterMap Record.posted? := by
  cases event with
  | post task =>
      obtain ⟨rfl, rfl⟩ := Prod.mk.inj (Option.some.inj hstep)
      cases task <;> simp [post, waitingMessages, taskMessage?, recordPost, List.filterMap_cons,
        Record.written?, Record.queued?, Record.posted?]
  | runPosted =>
      simp only [machine] at hstep
      split at hstep
      · cases hstep
      · next task rest hposted =>
          obtain ⟨rfl, rfl⟩ := Prod.mk.inj (Option.some.inj hstep)
          cases task with
          | send message =>
              simp [runTask, waitingMessages, hposted, taskMessage?, recordRun,
                List.filterMap_cons, Record.written?, Record.queued?, Record.posted?]
          | close =>
              simp [runTask, fail, waitingMessages, hposted, taskMessage?, recordRun,
                List.filterMap_cons]
  | writeCompleted index error =>
      simp only [machine] at hstep
      split at hstep
      · cases hstep
      · next message hwrite =>
          obtain ⟨rfl, rfl⟩ := Prod.mk.inj (Option.some.inj hstep)
          obtain ⟨-, rest, hqueue⟩ := hsound.completed hwrite
          cases error with
          | true => simp [onWrite, fail, waitingMessages]
          | false =>
              -- The popped message is the one that was written.
              simp [onWrite_writeQueue, waitingMessages, hqueue, List.filterMap_cons,
                Record.written?, Record.queued?, Record.posted?]
  | readFailed =>
      obtain ⟨rfl, rfl⟩ := Prod.mk.inj (Option.some.inj hstep)
      simp [fail, waitingMessages]
  | readClosed =>
      obtain ⟨rfl, rfl⟩ := Prod.mk.inj (Option.some.inj hstep)
      simp

theorem conserved_of_run
    {history : List (EventMachine.Step (WritePipeline μ) (Event μ) (Record μ))}
    {pipeline : WritePipeline μ} (hrun : (machine μ).Run history pipeline) :
    Conserved history pipeline := by
  refine EventMachine.Run.invariant (I := Conserved) ⟨rfl, rfl⟩ ?_ hrun
  intro history pipeline event pipeline' records hrun hconserved hstep
  obtain ⟨hqueue, hwaiting⟩ := step_accounts (sound_of_run hrun) hstep
  have hqueued := hconserved.queued
  have hposted := hconserved.posted
  simp only [writtenMessages, queuedMessages, postedMessages] at hqueued hposted
  constructor
  · simp only [writtenMessages, queuedMessages, EventMachine.trace_concat, List.filterMap_append]
    rw [List.append_assoc, hqueue, ← List.append_assoc, hqueued]
  · simp only [postedMessages, queuedMessages, EventMachine.trace_concat, List.filterMap_append]
    rw [List.append_assoc, hwaiting, ← List.append_assoc, hposted]

/-- **The write pipeline.**  After every run: at most one write is in progress; it writes the front
of the queue; the written messages and the queue are, in order, the messages whose `Send` task has
run, and with those still waiting in the executor all messages posted; and an open session with
something to write is writing. -/
theorem write_pipeline_sound
    {history : List (EventMachine.Step (WritePipeline μ) (Event μ) (Record μ))}
    {pipeline : WritePipeline μ} (hrun : (machine μ).Run history pipeline) :
    pipeline.outstanding.length ≤ 1 ∧
    (∀ message ∈ pipeline.outstanding, pipeline.writeQueue.head? = some message) ∧
    writtenMessages history ++ pipeline.writeQueue = queuedMessages history ∧
    writtenMessages history ++ pipeline.writeQueue ++ pipeline.waitingMessages =
      postedMessages history ∧
    (pipeline.closing = false → pipeline.writeQueue ≠ [] → pipeline.outstanding ≠ []) := by
  have hsound := sound_of_run hrun
  have hconserved := conserved_of_run hrun
  refine ⟨?_, ?_, hconserved.queued, ?_, hsound.progress⟩
  · rcases hsound.writing with hidle | ⟨front, rest, -, hwrite⟩
    · simp [hidle]
    · simp [hwrite]
  · intro message hmem
    rcases hsound.writing with hidle | ⟨front, rest, hqueue, hwrite⟩
    · simp [hidle] at hmem
    · rw [hwrite, List.mem_singleton] at hmem
      rw [hqueue, hmem, List.head?_cons]
  · rw [hconserved.queued, hconserved.posted]

/-- Two messages; the session fails to read while the second is being written, and a third is
posted after that. -/
theorem write_pipeline_sound_after_failure :
    let events : List (Event Nat) := [.post (.send 1), .post (.send 2), .runPosted, .runPosted,
      .writeCompleted 0 false, .readFailed, .post (.send 3), .runPosted]
    ∃ history pipeline, (machine Nat).exec events = some (history, pipeline) ∧
      pipeline.writeQueue = [2, 3] ∧ pipeline.closing = true ∧
      writtenMessages history ++ pipeline.writeQueue ++ pipeline.waitingMessages =
        postedMessages history ∧ postedMessages history = [1, 2, 3] := by
  intro events
  have hexec : (machine Nat).exec events = some (_, _) := rfl
  have hpipeline := write_pipeline_sound (EventMachine.run_of_exec hexec)
  exact ⟨_, _, hexec, rfl, rfl, hpipeline.2.2.2.1, rfl⟩

end WritePipeline
end Net
end BuzzWeb
