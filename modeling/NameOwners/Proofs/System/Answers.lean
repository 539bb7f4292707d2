import NameOwners.System

/-!
What the calls that start a resolver and shut it down are answered. A call is
answered when it is made, refused or accepted; the start that is accepted returns
with that answer later, when its wait is over (`Resolver.startup`). The answers of
a run, in order, are all that the later modules remember of its past.
-/

namespace NameOwners

inductive Answer where
  | start (result : Except Error Unit)
  | shutdown (result : Except Error Unit)

namespace Answer

def result : Answer → Except Error Unit
  | start result => result
  | shutdown result => result

def start? : Answer → Option (Except Error Unit)
  | start result => some result
  | shutdown _ => none

def shutdown? : Answer → Option (Except Error Unit)
  | start _ => none
  | shutdown result => some result

def starts (past : List Answer) : List (Except Error Unit) :=
  past.filterMap start?

def shutdowns (past : List Answer) : List (Except Error Unit) :=
  past.filterMap shutdown?

variable (past : List Answer) (result : Except Error Unit)

@[simp] theorem starts_concat_start :
    starts (past ++ [start result]) = starts past ++ [result] := by
  simp [starts, start?]

@[simp] theorem starts_concat_shutdown : starts (past ++ [shutdown result]) = starts past := by
  simp [starts, List.filterMap_cons, start?]

@[simp] theorem shutdowns_concat_start : shutdowns (past ++ [start result]) = shutdowns past := by
  simp [shutdowns, List.filterMap_cons, shutdown?]

@[simp] theorem shutdowns_concat_shutdown :
    shutdowns (past ++ [shutdown result]) = shutdowns past ++ [result] := by
  simp [shutdowns, shutdown?]

end Answer

namespace System

def answer? (s : System) : Action → Option Answer
  | .start => s.resolver.map fun r => .start (s.start r).2
  | .shutdown => s.resolver.map fun r => .shutdown (s.shutdown r).2
  | _ => none

def answers : System → List Action → List Answer
  | _, [] => []
  | s, a :: actions => (s.answer? a).toList ++ (s.step a).answers actions

theorem answers_append (s : System) (actions more : List Action) :
    s.answers (actions ++ more) = s.answers actions ++ (s.run actions).answers more := by
  induction actions generalizing s with
  | nil => rfl
  | cons a actions ih => rw [List.cons_append, answers, ih, answers, List.append_assoc, run_cons]

theorem answers_concat (s : System) (actions : List Action) (a : Action) :
    s.answers (actions ++ [a]) = s.answers actions ++ ((s.run actions).answer? a).toList := by
  rw [answers_append, answers, answers, List.append_nil]

theorem answer?_start {s : System} {r : Resolver} (h : s.resolver = some r) :
    s.answer? .start = some (.start ((r.start s.clock).map fun _ => ())) := by
  simp only [answer?, h, Option.map_some, start]
  cases r.start s.clock with
  | error e => rfl
  | ok r' => rfl

theorem answer?_of_no_resolver {s : System} (h : s.resolver = none) (a : Action) :
    s.answer? a = none := by
  cases a with
  | start => simp [answer?, h]
  | shutdown => simp [answer?, h]
  | _ => rfl

end System

end NameOwners
