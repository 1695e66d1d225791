import RestModel.Proofs.Pipeline
import RestModel.Workshop

/-!
# Workshops — what orders do to one pipeline

An order makes a pipeline or sets one a task; the others stay as they are
(`Workshop.getElem?_perform`). So over a run a pipeline is what its own tasks
have made of it (`Workshop.getElem?_performAll`), and it answers them as it
would if it were alone (`Workshop.repliesTo_eq_answers`).
-/

namespace RestModel

/-! ## One pipeline alone -/

/-- What can be asked of a pipeline that has been made. -/
inductive Task where
  | register (stage : Stage) (times : Nat)
  | inspect
  | build (entry : PathEntry)

/-- The stages that a task leaves behind. -/
def Task.added : Task → List Stage
  | .register stage times => List.replicate times stage
  | .inspect => []
  | .build _ => []

/-- The stages that tasks leave behind, one after another. -/
def Task.addedBy (tasks : List Task) : List Stage := tasks.flatMap added

theorem Task.addedBy_cons (task : Task) (tasks : List Task) :
    addedBy (task :: tasks) = task.added ++ addedBy tasks := List.flatMap_cons

theorem Task.addedBy_append (tasks more : List Task) :
    addedBy (tasks ++ more) = addedBy tasks ++ addedBy more := List.flatMap_append

/-- The order that sets the pipeline of a number a task. -/
def Task.order (index : Nat) : Task → Order
  | .register stage times => .register index stage times
  | .inspect => .inspect index
  | .build entry => .build index entry

/-- The task that an order sets the pipeline of a number, if it sets one. -/
def Order.task? (index : Nat) : Order → Option Task
  | .register i stage times => if i = index then some (.register stage times) else none
  | .inspect i => if i = index then some .inspect else none
  | .build i entry => if i = index then some (.build entry) else none
  | .create | .createStock _ | .copy _ => none

/-- The tasks that orders set the pipeline of a number. -/
def tasksOf (index : Nat) (orders : List Order) : List Task := orders.filterMap (Order.task? index)

theorem tasksOf_cons_of_some {index : Nat} {order : Order} {orders : List Order} {task : Task}
    (h : order.task? index = some task) :
    tasksOf index (order :: orders) = task :: tasksOf index orders :=
  List.filterMap_cons_some h

theorem tasksOf_cons_of_none {index : Nat} {order : Order} {orders : List Order}
    (h : order.task? index = none) :
    tasksOf index (order :: orders) = tasksOf index orders :=
  List.filterMap_cons_none h

theorem tasksOf_append (index : Nat) (orders more : List Order) :
    tasksOf index (orders ++ more) = tasksOf index orders ++ tasksOf index more :=
  List.filterMap_append

namespace Pipeline

/-- What a pipeline is after a task. -/
def after (pipeline : Pipeline) (task : Task) : Pipeline := ⟨pipeline.stages ++ task.added⟩

/-- What a pipeline answers to a task. -/
def answer (pipeline : Pipeline) : Task → Traced Reply
  | .register stage times => do
    return .registered (← pipeline.registerTimes stage times).stages.length
  | .inspect => pure (.shown pipeline.stages.length pipeline.describe)
  | .build entry => do return .built (← pipeline.build entry)

/-- What a pipeline answers to tasks, one after another. -/
def answers (pipeline : Pipeline) : List Task → List (Traced Reply)
  | [] => []
  | task :: tasks => pipeline.answer task :: (pipeline.after task).answers tasks

/-- A task that adds no stage leaves a pipeline as it is. -/
theorem after_of_added_eq_nil {pipeline : Pipeline} {task : Task} (h : task.added = []) :
    pipeline.after task = pipeline := by
  rw [after, h, List.append_nil]

/-- Registering a stage several times adds it as many times. -/
theorem outcome_registerTimes (pipeline : Pipeline) (stage : Stage) (times : Nat) :
    (pipeline.registerTimes stage times).outcome =
      .ok ⟨pipeline.stages ++ List.replicate times stage⟩ := by
  induction times generalizing pipeline with
  | zero => simp [registerTimes]
  | succ times ih =>
    rw [registerTimes, Traced.outcome_bind]
    simp only [register, Traced.outcome_bind, Traced.outcome_log, Traced.outcome_pure, ok_bind, ih]
    rw [List.append_assoc, List.replicate_succ, List.singleton_append]

end Pipeline

/-- An order sets a pipeline a task just if it is the task's order for it. -/
theorem Order.task?_eq_some_iff {index : Nat} {order : Order} {task : Task} :
    order.task? index = some task ↔ order = task.order index := by
  cases order <;> cases task <;> simp [task?, Task.order]

/-- An order sets one pipeline a task, or it sets none a task. -/
theorem Order.task_or_none (order : Order) :
    (∃ index, ∃ task : Task, order = task.order index) ∨ ∀ index, order.task? index = none := by
  cases order with
  | create | createStock | copy => exact .inr fun _ => rfl
  | register index stage times => exact .inl ⟨index, .register stage times, rfl⟩
  | inspect index => exact .inl ⟨index, .inspect, rfl⟩
  | build index entry => exact .inl ⟨index, .build entry, rfl⟩

/-- The order of a task for one pipeline sets no other a task. -/
theorem Task.task?_order_of_ne {index other : Nat} (h : other ≠ index) (task : Task) :
    (task.order other).task? index = none := by
  cases task <;> simp [Task.order, Order.task?, h]

/-! ## One order -/

namespace Workshop

variable {workshop : Workshop} {index : Nat} {pipeline : Pipeline} {order : Order}

/-- A pipeline put back where it stands changes nothing. -/
theorem set_self (h : workshop[index]? = some pipeline) :
    workshop.set index pipeline = workshop := by
  obtain ⟨hlt, rfl⟩ := List.getElem?_eq_some_iff.1 h
  exact List.set_getElem_self hlt

/-- A task goes to its pipeline, which answers it and keeps what it adds. -/
theorem perform_task (h : workshop[index]? = some pipeline) (task : Task) :
    workshop.perform (task.order index) =
      (workshop.set index (pipeline.after task), pipeline.answer task) := by
  cases task with
  | register stage times =>
    have hregister := pipeline.outcome_registerTimes stage times
    rcases hp : pipeline.registerTimes stage times with ⟨events, outcome⟩
    rw [hp] at hregister
    cases hregister
    simp [perform, step, Task.order, h, hp, Pipeline.after, Pipeline.answer, Task.added]
  | inspect =>
    rw [Pipeline.after_of_added_eq_nil rfl, set_self h]
    simp [perform, step, Task.order, h, Pipeline.answer]
  | build entry =>
    rw [Pipeline.after_of_added_eq_nil rfl, set_self h]
    rcases hp : pipeline.build entry with ⟨events, failure | resource⟩ <;>
      simp [perform, step, Task.order, h, hp, Pipeline.answer]

/-- A task for a pipeline that is not there changes nothing. -/
theorem perform_task_of_none (h : workshop[index]? = none) (task : Task) :
    (workshop.perform (task.order index)).1 = workshop := by
  cases task <;> simp [perform, step, Task.order, h]

/-- The pipeline that an order makes in a workshop, if it makes one. -/
def newborn? (workshop : Workshop) : Order → Option Pipeline
  | .create => some .empty
  | .createStock settings => some ⟨[settings.naming, settings.methods]⟩
  | .copy source => workshop[source]?
  | .register .. | .inspect _ | .build .. => none

/-- An order that sets no task adds what it makes behind the others. -/
theorem perform_of_no_task (h : ∀ index, order.task? index = none) :
    (workshop.perform order).1 = workshop ++ (workshop.newborn? order).toList := by
  cases order with
  | create | createStock => rfl
  | copy source =>
    rcases hsource : workshop[source]? with - | pipeline <;>
      simp [perform, step, add, newborn?, hsource]
  | register index | inspect index | build index => simpa [Order.task?] using h index

/-- **An order leaves every pipeline alone** but the one that it sets a task. -/
theorem getElem?_perform (h : workshop[index]? = some pipeline) (order : Order) :
    (workshop.perform order).1[index]? =
      some ((order.task? index).elim pipeline pipeline.after) := by
  obtain ⟨hlt, -⟩ := List.getElem?_eq_some_iff.1 h
  rcases order.task_or_none with ⟨other, task, rfl⟩ | hnone
  · by_cases hother : other = index
    · subst hother
      rw [perform_task h, Order.task?_eq_some_iff.2 rfl, Option.elim, List.getElem?_set_self hlt]
    · rw [task.task?_order_of_ne hother, Option.elim]
      rcases hthere : workshop[other]? with - | pipeline'
      · rw [perform_task_of_none hthere, h]
      · rw [perform_task hthere, List.getElem?_set_ne hother, h]
  · rw [hnone, Option.elim, perform_of_no_task hnone, List.getElem?_append_left hlt, h]

/-- Orders make pipelines one at a time. -/
theorem length_perform (workshop : Workshop) (order : Order) :
    (workshop.perform order).1.length =
      workshop.length + (workshop.newborn? order).toList.length := by
  rcases order.task_or_none with ⟨index, task, rfl⟩ | hnone
  · have hnew : workshop.newborn? (task.order index) = none := by cases task <;> rfl
    rw [hnew]
    rcases hthere : workshop[index]? with - | pipeline
    · rw [perform_task_of_none hthere]
      rfl
    · rw [perform_task hthere, List.length_set]
      rfl
  · rw [perform_of_no_task hnone, List.length_append]

/-- An order that makes a pipeline gives it the next number. -/
theorem getElem?_perform_length (h : workshop.newborn? order = some pipeline) :
    (workshop.perform order).1[workshop.length]? = some pipeline := by
  have hnone : ∀ index, order.task? index = none := by
    intro index
    cases order with
    | create | createStock | copy => rfl
    | register | inspect | build => cases h
  rw [perform_of_no_task hnone, h, Option.toList, List.getElem?_concat_length]

/-! ## Runs -/

/-- A workshop after orders, one after another. -/
def performAll (workshop : Workshop) (orders : List Order) : Workshop :=
  orders.foldl (fun workshop order => (workshop.perform order).1) workshop

/-- What the pipeline of a number answers to orders, one after another, as
long as it is there. -/
def repliesTo (index : Nat) (workshop : Workshop) : List Order → List (Traced Reply)
  | [] => []
  | order :: orders =>
    if index < workshop.length ∧ (order.task? index).isSome then
      (workshop.perform order).2 :: repliesTo index (workshop.perform order).1 orders
    else repliesTo index (workshop.perform order).1 orders

theorem performAll_cons (workshop : Workshop) (order : Order) (orders : List Order) :
    workshop.performAll (order :: orders) = performAll (workshop.perform order).1 orders := rfl

theorem performAll_append (workshop : Workshop) (orders more : List Order) :
    workshop.performAll (orders ++ more) = (workshop.performAll orders).performAll more :=
  List.foldl_append

/-- No order takes a pipeline away. -/
theorem length_le_performAll (workshop : Workshop) (orders : List Order) :
    workshop.length ≤ (workshop.performAll orders).length := by
  induction orders generalizing workshop with
  | nil => exact Nat.le_refl _
  | cons order orders ih =>
    have hstep := length_perform workshop order
    have hrest := ih (workshop.perform order).1
    rw [performAll_cons]
    omega

/-- **A pipeline is what its tasks have made of it.** By induction on the run:
an order sets it a task or leaves it alone. -/
theorem getElem?_performAll (h : workshop[index]? = some pipeline) (orders : List Order) :
    (workshop.performAll orders)[index]? =
      some ⟨pipeline.stages ++ Task.addedBy (tasksOf index orders)⟩ := by
  induction orders generalizing workshop pipeline with
  | nil => simpa [performAll, tasksOf, Task.addedBy] using h
  | cons order orders ih =>
    rw [performAll_cons, ih (getElem?_perform h order)]
    rcases htask : order.task? index with - | task
    · rw [tasksOf_cons_of_none htask, Option.elim]
    · rw [tasksOf_cons_of_some htask, Option.elim, Task.addedBy_cons, Pipeline.after,
        List.append_assoc]

/-- **A pipeline answers its tasks as it would alone.** -/
theorem repliesTo_eq_answers (h : workshop[index]? = some pipeline) (orders : List Order) :
    workshop.repliesTo index orders = pipeline.answers (tasksOf index orders) := by
  induction orders generalizing workshop pipeline with
  | nil => rfl
  | cons order orders ih =>
    obtain ⟨hlt, -⟩ := List.getElem?_eq_some_iff.1 h
    have hrest := ih (getElem?_perform h order)
    rw [repliesTo]
    rcases htask : order.task? index with - | task
    · simp only [htask, Option.elim] at hrest
      simp [hrest, tasksOf_cons_of_none htask]
    · simp only [htask, Option.elim] at hrest
      obtain rfl := Order.task?_eq_some_iff.1 htask
      rw [perform_task h] at hrest ⊢
      simp only [hlt, Option.isSome_some, and_self, if_true]
      rw [hrest, tasksOf_cons_of_some htask, Pipeline.answers]

/-- A pipeline that is not made yet is not there to answer. -/
theorem repliesTo_of_le {orders : List Order} (h : (workshop.performAll orders).length ≤ index) :
    workshop.repliesTo index orders = [] := by
  induction orders generalizing workshop with
  | nil => rfl
  | cons order orders ih =>
    have hbefore := Nat.le_trans (workshop.length_le_performAll (order :: orders)) h
    have hnot : ¬ (index < workshop.length ∧ (order.task? index).isSome) := by omega
    rw [repliesTo]
    simp only [hnot, if_false]
    exact ih h

theorem repliesTo_append (workshop : Workshop) (orders more : List Order) :
    workshop.repliesTo index (orders ++ more) =
      workshop.repliesTo index orders ++ (workshop.performAll orders).repliesTo index more := by
  induction orders generalizing workshop with
  | nil => rfl
  | cons order orders ih =>
    have hrest := ih (workshop.perform order).1
    rw [List.cons_append, repliesTo, repliesTo]
    split
    · rw [hrest]
      rfl
    · exact hrest

end Workshop

end RestModel
