import Mathlib.Data.List.Induction
import RestModel.Proofs.Workshop

/-!
# Isolation — a pipeline answers from its own life

A workshop holds many pipelines, and orders to them come in any sequence. The
life of one of them is what it had when it was made and what has been asked of
it since; what is asked of the others is no part of it. Every answer that it
gives is the one that it would give if it were alone (`Life.repliesTo`), so it
depends on the stages of its life only, and two runs in which the same
pipelines are made and asked the same agree in all their answers, however they
are interleaved (`Workshop.isolation`).
-/

namespace RestModel

/-! ## Lives -/

/-- Whether an order makes a pipeline where there are so many. -/
def Order.makes (count : Nat) : Order → Bool
  | .create | .createStock _ => true
  | .copy source => source < count
  | .register .. | .inspect _ | .build .. => false

/-- How many pipelines orders make. -/
def made (orders : List Order) : Nat :=
  orders.foldl (fun count order => count + (order.makes count).toNat) 0

/-- How a pipeline came to be: without stages, with the stock stages, or as a
copy of another one when that had been set so many tasks. -/
inductive Birth (ν : Type) where
  | empty
  | stock (settings : Settings)
  | copied (source : ν) (point : Nat)

/-- The birth of a pipeline under other names for all of them. -/
def Birth.map {ν μ : Type} (rename : ν → μ) : Birth ν → Birth μ
  | .empty => .empty
  | .stock settings => .stock settings
  | .copied source point => .copied (rename source) point

/-- An order that stands between others makes the pipeline of a number. -/
structure Born (orders : List Order) (index : Nat) (order : Order) (before after : List Order) :
    Prop where
  orders_eq : orders = before ++ order :: after
  made_eq : made before = index
  makes : order.makes index

/-- **The life of a pipeline** in a run: how it was made, which stages it held
then, and the tasks that it has been set since. A copy holds what its source
held when it was made, and what its source had been set to add since. -/
inductive Life : List Order → Nat → Birth Nat → List Stage → List Task → Prop
  | empty {orders before after : List Order} {index : Nat} :
      Born orders index .create before after → Life orders index .empty [] (tasksOf index after)
  | stock {orders before after : List Order} {index : Nat} {settings : Settings} :
      Born orders index (.createStock settings) before after →
      Life orders index (.stock settings) [settings.naming, settings.methods] (tasksOf index after)
  | copied {orders before after : List Order} {index source : Nat} {birth : Birth Nat}
      {held : List Stage} {tasks : List Task} :
      Born orders index (.copy source) before after → Life before source birth held tasks →
      Life orders index (.copied source tasks.length) (held ++ Task.addedBy tasks)
        (tasksOf index after)

variable {orders before after before' after' : List Order} {order order' : Order}
  {index : Nat} {birth birth' : Birth Nat} {held held' : List Stage} {tasks tasks' : List Task}

theorem made_concat (orders : List Order) (order : Order) :
    made (orders ++ [order]) = made orders + (order.makes (made orders)).toNat := by
  simp [made]

/-- A workshop holds what orders make. -/
theorem Workshop.length_performAll (orders : List Order) :
    (performAll [] orders).length = made orders := by
  induction orders using List.reverseRecOn with
  | nil => rfl
  | append_singleton orders order ih =>
    rw [performAll_append, made_concat, ← ih]
    refine (length_perform _ order).trans (congrArg _ ?_)
    cases order with
    | create | createStock | register | inspect | build => rfl
    | copy source =>
      rw [newborn?, Order.makes]
      by_cases hlt : source < (performAll [] orders).length
      · simp [hlt]
      · simp [hlt]

/-- Orders make no fewer pipelines if there are more of them. -/
theorem made_le_made_append (orders more : List Order) : made orders ≤ made (orders ++ more) := by
  rw [← Workshop.length_performAll, ← Workshop.length_performAll, Workshop.performAll_append]
  exact Workshop.length_le_performAll _ _

namespace Born

/-- What makes a pipeline still makes it if more orders follow. -/
theorem append (h : Born orders index order before after) (more : List Order) :
    Born (orders ++ more) index order before (after ++ more) :=
  ⟨by rw [h.orders_eq, List.append_assoc, List.cons_append], h.made_eq, h.makes⟩

/-- The last order makes the next pipeline, if it makes one. -/
theorem concat (h : order.makes (made orders)) :
    Born (orders ++ [order]) (made orders) order orders [] :=
  ⟨rfl, rfl, h⟩

/-- After the order that makes a pipeline, there are more. -/
theorem lt_made_append (h : Born orders index order before after) (more : List Order) :
    index < made (before ++ order :: more) := by
  have hmade := made_le_made_append (before ++ [order]) more
  rw [List.append_assoc, List.singleton_append, made_concat, h.made_eq, h.makes] at hmade
  exact hmade

theorem lt_made (h : Born orders index order before after) : index < made orders :=
  h.orders_eq ▸ h.lt_made_append after

/-- No order behind the one that makes a pipeline makes it again, since it would
give a later number. -/
theorem eq_of_append {rest : List Order} (h : Born orders index order before after)
    (h' : Born orders index order' before' after') (hbefore : before' = before ++ rest)
    (hrest : order :: after = rest ++ order' :: after') :
    before = before' ∧ order = order' ∧ after = after' := by
  cases rest with
  | nil =>
    cases hrest
    exact ⟨by rw [hbefore, List.append_nil], rfl, rfl⟩
  | cons _ rest =>
    cases hrest
    exact absurd (hbefore ▸ h'.made_eq) (Nat.ne_of_gt (h.lt_made_append rest))

/-- Only one order makes a pipeline. -/
theorem unique (h : Born orders index order before after)
    (h' : Born orders index order' before' after') :
    before = before' ∧ order = order' ∧ after = after' := by
  rcases List.append_eq_append_iff.1 (h.orders_eq.symm.trans h'.orders_eq) with
    ⟨rest, hbefore, hrest⟩ | ⟨rest, hbefore, hrest⟩
  · exact h.eq_of_append h' hbefore hrest
  · obtain ⟨rfl, rfl, rfl⟩ := h'.eq_of_append h hbefore hrest
    exact ⟨rfl, rfl, rfl⟩

/-- What an order makes becomes what its later tasks make of it. -/
theorem getElem? {pipeline : Pipeline} (h : Born orders index order before after)
    (hnew : (Workshop.performAll [] before).newborn? order = some pipeline) :
    (Workshop.performAll [] orders)[index]? =
      some ⟨pipeline.stages ++ Task.addedBy (tasksOf index after)⟩ := by
  have hborn := Workshop.getElem?_perform_length hnew
  rw [Workshop.length_performAll, h.made_eq] at hborn
  rw [h.orders_eq, Workshop.performAll_append]
  exact Workshop.getElem?_performAll hborn after

/-- A pipeline answers no orders before it is made, and then as it would alone. -/
theorem repliesTo {pipeline : Pipeline} (h : Born orders index order before after)
    (hnew : (Workshop.performAll [] before).newborn? order = some pipeline) :
    Workshop.repliesTo index [] orders = pipeline.answers (tasksOf index after) := by
  have hlength : (Workshop.performAll [] before).length = index := by
    rw [Workshop.length_performAll, h.made_eq]
  have hborn := Workshop.getElem?_perform_length hnew
  rw [hlength] at hborn
  rw [h.orders_eq, Workshop.repliesTo_append,
    Workshop.repliesTo_of_le (Nat.le_of_eq hlength), List.nil_append, Workshop.repliesTo, hlength]
  simp only [Nat.lt_irrefl, false_and, if_false]
  exact Workshop.repliesTo_eq_answers hborn after

end Born

namespace Life

/-- A life goes on with the tasks of the orders that follow. -/
theorem append (h : Life orders index birth held tasks) (more : List Order) :
    Life (orders ++ more) index birth held (tasks ++ tasksOf index more) := by
  cases h with
  | empty hborn =>
    rw [← tasksOf_append]
    exact .empty (hborn.append more)
  | stock hborn =>
    rw [← tasksOf_append]
    exact .stock (hborn.append more)
  | copied hborn hsource =>
    rw [← tasksOf_append]
    exact .copied (hborn.append more) hsource

theorem lt_made (h : Life orders index birth held tasks) : index < made orders := by
  cases h with
  | empty hborn | stock hborn | copied hborn => exact hborn.lt_made

/-- Every pipeline that has been made has a life. By induction on the run: the
last order goes on with the lives that there are, or starts one. -/
theorem exists_of_lt_made (h : index < made orders) :
    ∃ birth held tasks, Life orders index birth held tasks := by
  induction orders using List.reverseRecOn generalizing index with
  | nil => cases h
  | append_singleton orders order ih =>
    rcases Nat.lt_or_ge index (made orders) with hold | hnew
    · obtain ⟨birth, held, tasks, hlife⟩ := ih hold
      exact ⟨_, _, _, hlife.append [order]⟩
    rw [made_concat] at h
    have hmakes : order.makes (made orders) := by
      cases hmakes : order.makes (made orders) with
      | true => rfl
      | false =>
        rw [hmakes] at h
        exact absurd h (Nat.not_lt_of_ge hnew)
    obtain rfl : index = made orders := by
      rw [hmakes] at h
      exact Nat.le_antisymm (Nat.le_of_lt_succ h) hnew
    have hborn := Born.concat hmakes
    cases order with
    | create => exact ⟨_, _, _, .empty hborn⟩
    | createStock settings => exact ⟨_, _, _, .stock hborn⟩
    | copy source =>
      obtain ⟨birth, held, tasks, hsource⟩ := ih (of_decide_eq_true hmakes)
      exact ⟨_, _, _, .copied hborn hsource⟩
    | register | inspect | build => cases hmakes

/-- A pipeline has one life. -/
theorem unique (h : Life orders index birth held tasks)
    (h' : Life orders index birth' held' tasks') :
    birth = birth' ∧ held = held' ∧ tasks = tasks' := by
  induction h generalizing birth' held' tasks' with
  | empty hborn =>
    cases h' with
    | empty hborn' =>
      obtain ⟨-, -, rfl⟩ := hborn.unique hborn'
      exact ⟨rfl, rfl, rfl⟩
    | stock hborn' | copied hborn' => cases (hborn.unique hborn').2.1
  | stock hborn =>
    cases h' with
    | stock hborn' =>
      obtain ⟨-, ⟨⟩, rfl⟩ := hborn.unique hborn'
      exact ⟨rfl, rfl, rfl⟩
    | empty hborn' | copied hborn' => cases (hborn.unique hborn').2.1
  | copied hborn _ ih =>
    cases h' with
    | copied hborn' hsource' =>
      obtain ⟨rfl, ⟨⟩, rfl⟩ := hborn.unique hborn'
      obtain ⟨-, rfl, rfl⟩ := ih hsource'
      exact ⟨rfl, rfl, rfl⟩
    | empty hborn' | stock hborn' => cases (hborn.unique hborn').2.1

/-- **A pipeline holds the stages of its life.** -/
theorem getElem? (h : Life orders index birth held tasks) :
    (Workshop.performAll [] orders)[index]? = some ⟨held ++ Task.addedBy tasks⟩ := by
  induction h with
  | empty hborn | stock hborn => exact hborn.getElem? rfl
  | copied hborn _ ih => exact hborn.getElem? ih

/-- **A pipeline answers as it would alone**, starting from what it was made with. -/
theorem repliesTo (h : Life orders index birth held tasks) :
    Workshop.repliesTo index [] orders = (Pipeline.mk held).answers tasks := by
  cases h with
  | empty hborn | stock hborn => exact hborn.repliesTo rfl
  | copied hborn hsource => exact hborn.repliesTo hsource.getElem?

/-- A copy holds what its source held at first, and what the first tasks of its
source have added to that. -/
theorem held_of_copied {source point : Nat}
    (h : Life orders index (.copied source point) held tasks)
    (hsource : Life orders source birth' held' tasks') :
    source < index ∧ held = held' ++ Task.addedBy (tasks'.take point) := by
  cases h with
  | copied hborn hbefore =>
    refine ⟨hborn.made_eq ▸ hbefore.lt_made, ?_⟩
    rw [hborn.orders_eq] at hsource
    obtain ⟨-, rfl, rfl⟩ := hsource.unique (hbefore.append _)
    rw [List.take_left]

end Life

/-! ## Interleavings -/

/-- What befalls a pipeline: how it is made, and the tasks that it is set. -/
structure History (ν : Type) where
  birth : Birth ν
  tasks : List Task

/-- A run makes the pipelines of some names, under numbers of its own, and sets
each of them the tasks of its history. It may do more than that. -/
def Interleaves {ν : Type} (orders : List Order) (number : ν → Nat) (histories : ν → History ν) :
    Prop :=
  ∀ b, ∃ held, Life orders (number b) ((histories b).birth.map number) held (histories b).tasks

namespace Interleaves

variable {ν : Type} {number number' : ν → Nat} {histories : ν → History ν} {orders' : List Order}

/-- A pipeline starts from the same stages in all runs of its history and the
others'. By induction on its number, since a copy has a later one than its source. -/
theorem held_eq (h : Interleaves orders number histories)
    (h' : Interleaves orders' number' histories) (b : ν)
    (hlife : Life orders (number b) ((histories b).birth.map number) held tasks)
    (hlife' : Life orders' (number' b) ((histories b).birth.map number') held' tasks') :
    held = held' := by
  induction hn : number b using Nat.strongRecOn generalizing b held held' tasks tasks' with
  | ind n ih =>
    subst hn
    cases hbirth : (histories b).birth with
    | empty | stock =>
      rw [hbirth] at hlife hlife'
      cases hlife
      cases hlife'
      rfl
    | copied source point =>
      rw [hbirth] at hlife hlife'
      obtain ⟨start, hsource⟩ := h source
      obtain ⟨start', hsource'⟩ := h' source
      obtain ⟨hlt, rfl⟩ := hlife.held_of_copied hsource
      obtain ⟨-, rfl⟩ := hlife'.held_of_copied hsource'
      rw [ih _ hlt source hsource hsource' rfl]

/-- **Two runs of the same histories agree in all answers.** -/
theorem repliesTo_eq (h : Interleaves orders number histories)
    (h' : Interleaves orders' number' histories) (b : ν) :
    Workshop.repliesTo (number b) [] orders = Workshop.repliesTo (number' b) [] orders' := by
  obtain ⟨held, hlife⟩ := h b
  obtain ⟨held', hlife'⟩ := h' b
  obtain rfl := h.held_eq h' b hlife hlife'
  rw [hlife.repliesTo, hlife'.repliesTo]

end Interleaves

namespace Workshop

/-- What a pipeline answers when it is asked how many stages it has. -/
theorem outcome_perform_inspect (h : Life orders index birth held tasks) :
    ((performAll [] orders).perform (.inspect index)).2.outcome =
      .ok (.shown (held ++ Task.addedBy tasks).length
        (Pipeline.mk (held ++ Task.addedBy tasks)).describe) := by
  rw [show Order.inspect index = Task.inspect.order index from rfl, perform_task h.getElem?]
  rfl

/-- A pipeline builds by passing the empty resource through the stages of its life. -/
theorem outcome_perform_build (h : Life orders index birth held tasks) (entry : PathEntry) :
    ((performAll [] orders).perform (.build index entry)).2.outcome =
      ((held ++ Task.addedBy tasks).foldlM
        (fun resource (stage : Stage) => (stage entry resource).outcome) Resource.empty).map
          .built := by
  rw [show Order.build index entry = (Task.build entry).order index from rfl,
    perform_task h.getElem?, Pipeline.answer, Traced.outcome_bind, Pipeline.outcome_build]
  rfl

/-- A build changes nothing, whether it succeeds or fails. -/
theorem performAll_concat_build (orders : List Order) (index : Nat) (entry : PathEntry) :
    performAll [] (orders ++ [.build index entry]) = performAll [] orders := by
  rw [performAll_append]
  change ((performAll [] orders).perform ((Task.build entry).order index)).1 = _
  rcases hthere : (performAll [] orders)[index]? with - | pipeline
  · exact perform_task_of_none hthere _
  · rw [perform_task hthere, Pipeline.after_of_added_eq_nil rfl, set_self hthere]

/-- An order that adds no stage to a pipeline changes none of its later answers. -/
theorem repliesTo_of_added_eq_nil (h : index < made orders)
    (hadded : ∀ task, order.task? index = some task → task.added = []) (after : List Order) :
    repliesTo index (performAll [] (orders ++ [order])) after =
      repliesTo index (performAll [] orders) after := by
  obtain ⟨birth, held, tasks, hlife⟩ := Life.exists_of_lt_made h
  have hsame : Task.addedBy (tasks ++ tasksOf index [order]) = Task.addedBy tasks := by
    rw [Task.addedBy_append]
    rcases htask : order.task? index with - | task
    · rw [tasksOf_cons_of_none htask]
      exact List.append_nil _
    · rw [tasksOf_cons_of_some htask, Task.addedBy_cons, hadded task htask]
      exact List.append_nil _
  rw [repliesTo_eq_answers (hlife.append [order]).getElem?, repliesTo_eq_answers hlife.getElem?,
    hsame]

/-- **Pipelines are isolated over any run.** Every pipeline that has been made
has a life. At every point it holds the stages that it was made with and those
that it has been set to add since, it builds by passing the empty resource
through them, and all that it has answered is what it would have answered
alone. An order that adds no stage to it, whatever it does to others, changes
none of its later answers; a build changes nothing at all. So two runs of the
same histories agree in all answers of every pipeline. -/
theorem isolation (orders : List Order) :
    (∀ index < made orders, ∃ birth held tasks, Life orders index birth held tasks) ∧
    (∀ index birth held tasks, Life orders index birth held tasks →
      ((performAll [] orders).perform (.inspect index)).2.outcome =
        .ok (.shown (held ++ Task.addedBy tasks).length
          (Pipeline.mk (held ++ Task.addedBy tasks)).describe) ∧
      (∀ entry, ((performAll [] orders).perform (.build index entry)).2.outcome =
        ((held ++ Task.addedBy tasks).foldlM
          (fun resource (stage : Stage) => (stage entry resource).outcome) Resource.empty).map
            .built) ∧
      repliesTo index [] orders = (Pipeline.mk held).answers tasks) ∧
    (∀ index order after, index < made orders →
      (∀ task, order.task? index = some task → task.added = []) →
      repliesTo index (performAll [] (orders ++ [order])) after =
        repliesTo index (performAll [] orders) after) ∧
    (∀ index entry, performAll [] (orders ++ [.build index entry]) = performAll [] orders) ∧
    ∀ (orders' : List Order) (ν : Type) (histories : ν → History ν) (number number' : ν → Nat),
      Interleaves orders number histories → Interleaves orders' number' histories →
        ∀ b, repliesTo (number b) [] orders = repliesTo (number' b) [] orders' := by
  refine ⟨fun index => Life.exists_of_lt_made, ?_, ?_, performAll_concat_build orders, ?_⟩
  · intro index birth held tasks hlife
    exact ⟨outcome_perform_inspect hlife, outcome_perform_build hlife, hlife.repliesTo⟩
  · intro index order after hmade hadded
    exact repliesTo_of_added_eq_nil hmade hadded after
  · intro orders' ν histories number number' h h' b
    exact h.repliesTo_eq h' b

/-- An original, and the clone that is taken of it between two registrations. -/
def sampleHistories : Bool → History Bool
  | false => ⟨.empty, [.register Settings.stock.naming 2, .register Settings.stock.methods 1]⟩
  | true => ⟨.copied false 1, [.register Settings.stock.methods 1, .build ⟨"/a", []⟩]⟩

/-- The original is finished before its clone is touched. -/
def sampleOrders : List Order :=
  [.create, .register 0 Settings.stock.naming 2, .copy 0, .register 0 Settings.stock.methods 1,
    .register 1 Settings.stock.methods 1, .build 1 ⟨"/a", []⟩]

/-- The clone comes first, and a build of an unrelated pipeline fails between. -/
def sampleInterleaved : List Order :=
  [.createStock .stock, .create, .register 1 Settings.stock.naming 2, .copy 1,
    .register 2 Settings.stock.methods 1, .build 0 ⟨"/", []⟩, .build 2 ⟨"/a", []⟩,
    .register 1 Settings.stock.methods 1]

/-- Both runs give the histories, and the clone answers alike in them. -/
theorem isolation_sample :
    Interleaves sampleOrders (fun b => b.toNat) sampleHistories ∧
      Interleaves sampleInterleaved (fun b => b.toNat + 1) sampleHistories ∧
      repliesTo 1 [] sampleOrders = repliesTo 2 [] sampleInterleaved := by
  have h : Interleaves sampleOrders (fun b => b.toNat) sampleHistories := by
    have hborn : Born sampleOrders 0 .create [] (sampleOrders.drop 1) := ⟨rfl, rfl, rfl⟩
    have hsource : Born (sampleOrders.take 2) 0 .create [] ((sampleOrders.take 2).drop 1) :=
      ⟨rfl, rfl, rfl⟩
    have hcopy : Born sampleOrders 1 (.copy 0) (sampleOrders.take 2) (sampleOrders.drop 3) :=
      ⟨rfl, rfl, rfl⟩
    rintro (_ | _)
    · exact ⟨_, .empty hborn⟩
    · exact ⟨_, .copied hcopy (.empty hsource)⟩
  have h' : Interleaves sampleInterleaved (fun b => b.toNat + 1) sampleHistories := by
    have hborn : Born sampleInterleaved 1 .create (sampleInterleaved.take 1)
        (sampleInterleaved.drop 2) := ⟨rfl, rfl, rfl⟩
    have hsource : Born (sampleInterleaved.take 3) 1 .create (sampleInterleaved.take 1)
        ((sampleInterleaved.take 3).drop 2) := ⟨rfl, rfl, rfl⟩
    have hcopy : Born sampleInterleaved 2 (.copy 1) (sampleInterleaved.take 3)
        (sampleInterleaved.drop 4) := ⟨rfl, rfl, rfl⟩
    rintro (_ | _)
    · exact ⟨_, .empty hborn⟩
    · exact ⟨_, .copied hcopy (.empty hsource)⟩
  obtain ⟨-, -, -, -, hsame⟩ := isolation sampleOrders
  exact ⟨h, h', hsame sampleInterleaved Bool sampleHistories _ _ h h' true⟩

end Workshop

end RestModel
