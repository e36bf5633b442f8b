import Mathlib.Tactic.Lemma

/-!
# Scripts over shared cells

A script is a sequential program that runs beside others over a shared state.  Each of its accesses
is one step: a command that changes the state or is refused, a reading of the state, or a question
to the environment.  Between two accesses the others may change the state.

* `Script` — the scripts, with the monad that composes them.
* `Script.Only` — what a script can issue and return, whatever it reads and is told.
* `Script.Keeps` — what holds of a run of a script that others interfere with: each of its own
  changes meets a guarantee, as long as the changes of the others meet `rely`.
* `keeps_bind`, `keeps_of_only` — the rules: composition, and an invariant of every command.

Nothing here knows what the states, commands and questions are.
-/

namespace Foundation

/-- A program over states `σ` that issues commands `γ` and asks questions `ι`. -/
inductive Script (σ γ : Type) {ι : Type} (A : ι → Type) (β : Type) : Type
  | done (result : β)
  /-- Issues a command, and learns whether it was performed. -/
  | exec (command : γ) (next : Bool → Script σ γ A β)
  | read (next : σ → Script σ γ A β)
  | ask (question : ι) (next : A question → Script σ γ A β)

namespace Script

variable {σ γ ι : Type} {A : ι → Type} {β δ : Type}

/-- One script after another. -/
def andThen : Script σ γ A β → (β → Script σ γ A δ) → Script σ γ A δ
  | done result, rest => rest result
  | exec command next, rest => exec command fun performed => (next performed).andThen rest
  | read next, rest => read fun s => (next s).andThen rest
  | ask question next, rest => ask question fun answer => (next answer).andThen rest

instance : Monad (Script σ γ A) where
  pure := done
  bind := andThen

/-- Issues a command, whether it is performed or not. -/
def perform (command : γ) : Script σ γ A Unit := exec command fun _ => done ()

/-- Issues a command, and returns whether it was performed. -/
def attempt (command : γ) : Script σ γ A Bool := exec command done

/-- Reads the state. -/
def get : Script σ γ A σ := read done

/-- Asks the environment. -/
def inquire (question : ι) : Script σ γ A (A question) := ask question done

@[simp] lemma pure_eq (result : β) : (pure result : Script σ γ A β) = done result := rfl

@[simp] lemma bind_eq (script : Script σ γ A β) (rest : β → Script σ γ A δ) :
    script >>= rest = script.andThen rest := rfl

/-! ## What a script can issue -/

/-- Every command that the script can issue meets `P`, and every result `Q`. -/
def Only (P : γ → Prop) (Q : β → Prop) : Script σ γ A β → Prop
  | done result => Q result
  | exec command next => P command ∧ ∀ performed, (next performed).Only P Q
  | read next => ∀ s, (next s).Only P Q
  | ask _ next => ∀ answer, (next answer).Only P Q

variable {P P' : γ → Prop} {Q Q' : β → Prop} {R : δ → Prop}

@[simp] lemma only_done {result : β} :
    (done result : Script σ γ A β).Only P Q ↔ Q result := Iff.rfl

@[simp] lemma only_exec {command : γ} {next : Bool → Script σ γ A β} :
    (exec command next).Only P Q ↔ P command ∧ ∀ performed, (next performed).Only P Q := Iff.rfl

@[simp] lemma only_read {next : σ → Script σ γ A β} :
    (read next).Only P Q ↔ ∀ s, (next s).Only P Q := Iff.rfl

@[simp] lemma only_ask {question : ι} {next : A question → Script σ γ A β} :
    (ask question next).Only P Q ↔ ∀ answer, (next answer).Only P Q := Iff.rfl

@[simp] lemma only_perform {command : γ} {Q : Unit → Prop} :
    (perform command : Script σ γ A Unit).Only P Q ↔ P command ∧ Q () := by
  simp [perform]

@[simp] lemma only_get {Q : σ → Prop} :
    (get : Script σ γ A σ).Only P Q ↔ ∀ s, Q s := Iff.rfl

@[simp] lemma only_inquire {question : ι} {Q : A question → Prop} :
    (inquire question : Script σ γ A (A question)).Only P Q ↔ ∀ answer, Q answer := Iff.rfl

/-- A sequence issues what its parts issue. -/
lemma only_andThen {script : Script σ γ A β} {rest : β → Script σ γ A δ} :
    (script.andThen rest).Only P R ↔ script.Only P fun result => (rest result).Only P R := by
  induction script with
  | done result => exact Iff.rfl
  | exec command next ih => exact and_congr_right fun _ => forall_congr' ih
  | read next ih => exact forall_congr' ih
  | ask question next ih => exact forall_congr' ih

lemma Only.mono (hP : ∀ command, P command → P' command) (hQ : ∀ result, Q result → Q' result)
    {script : Script σ γ A β} (honly : script.Only P Q) : script.Only P' Q' := by
  induction script with
  | done result => exact hQ result honly
  | exec command next ih =>
      exact ⟨hP command honly.1, fun performed => ih performed (honly.2 performed)⟩
  | read next ih => exact fun s => ih s (honly s)
  | ask question next ih => exact fun answer => ih answer (honly answer)

lemma only_trivial (script : Script σ γ A β) :
    script.Only (fun _ => True) fun _ => True := by
  induction script with
  | done result => trivial
  | exec command next ih => exact ⟨trivial, ih⟩
  | read next ih => exact ih
  | ask question next ih => exact ih

/-! ## What a script keeps under interference -/

/-- How commands act, what the others may change, and what the environment may answer. -/
structure Context (σ γ : Type) {ι : Type} (A : ι → Type) where
  /-- Performs a command; `none` when it is refused. -/
  apply : γ → σ → Option σ
  rely : σ → σ → Prop
  rely_refl : ∀ s, rely s s
  rely_trans : ∀ {s t u}, rely s t → rely t u → rely s u
  may : (question : ι) → A question → Prop

variable (context : Context σ γ A) (guar : σ → σ → Prop)

/-- From the state `s` on, whatever the others change, each change of the script meets the
guarantee, and its result meets `Q` for as long as it is not acted upon. -/
def Keeps (Q : β → σ → Prop) : Script σ γ A β → σ → Prop
  | done result, s => ∀ t, context.rely s t → Q result t
  | exec command next, s => ∀ t, context.rely s t →
      match context.apply command t with
      | some u => guar t u ∧ (next true).Keeps Q u
      | none => (next false).Keeps Q t
  | read next, s => ∀ t, context.rely s t → (next t).Keeps Q t
  | ask question next, s => ∀ answer, context.may question answer → (next answer).Keeps Q s

variable {context guar} {S S' : β → σ → Prop} {U : δ → σ → Prop} {s t : σ}

/-- What the others change does not matter. -/
lemma Keeps.rely {script : Script σ γ A β} (hkeeps : script.Keeps context guar S s)
    (hrely : context.rely s t) : script.Keeps context guar S t := by
  induction script with
  | done result => exact fun u hu => hkeeps u (context.rely_trans hrely hu)
  | exec command next ih => exact fun u hu => hkeeps u (context.rely_trans hrely hu)
  | read next ih => exact fun u hu => hkeeps u (context.rely_trans hrely hu)
  | ask question next ih => exact fun answer hmay => ih answer (hkeeps answer hmay)

lemma Keeps.mono (hS : ∀ result t, S result t → S' result t) {script : Script σ γ A β}
    (hkeeps : script.Keeps context guar S s) : script.Keeps context guar S' s := by
  induction script generalizing s with
  | done result => exact fun t ht => hS result t (hkeeps t ht)
  | exec command next ih =>
      intro t ht
      have hnext := hkeeps t ht
      cases happly : context.apply command t with
      | none =>
          rw [happly] at hnext
          exact ih false hnext
      | some u =>
          rw [happly] at hnext
          exact ⟨hnext.1, ih true hnext.2⟩
  | read next ih => exact fun t ht => ih t (hkeeps t ht)
  | ask question next ih => exact fun answer hmay => ih answer (hkeeps answer hmay)

/-- **Composition.**  The second script takes over where the first ends. -/
lemma keeps_andThen {script : Script σ γ A β} {rest : β → Script σ γ A δ}
    (hkeeps : script.Keeps context guar (fun result t => (rest result).Keeps context guar U t) s) :
    (script.andThen rest).Keeps context guar U s := by
  induction script generalizing s with
  | done result => exact hkeeps s (context.rely_refl s)
  | exec command next ih =>
      intro t ht
      have hnext := hkeeps t ht
      cases happly : context.apply command t with
      | none =>
          rw [happly] at hnext
          exact ih false hnext
      | some u =>
          rw [happly] at hnext
          exact ⟨hnext.1, ih true hnext.2⟩
  | read next ih => exact fun t ht => ih t (hkeeps t ht)
  | ask question next ih => exact fun answer hmay => ih answer (hkeeps answer hmay)

/-- Composition by what is known in between. -/
lemma keeps_bind {script : Script σ γ A β} {rest : β → Script σ γ A δ}
    (hfirst : script.Keeps context guar S s)
    (hrest : ∀ result t, S result t → (rest result).Keeps context guar U t) :
    (script.andThen rest).Keeps context guar U s :=
  keeps_andThen (hfirst.mono hrest)

/-- An assertion that survives what the others change. -/
def Context.Stable (context : Context σ γ A) (I : σ → Prop) : Prop :=
  ∀ s t, context.rely s t → I s → I t

variable {I J : σ → Prop}

lemma keeps_done {result : β} (hstable : context.Stable I) (hs : I s)
    (hresult : ∀ t, I t → S result t) :
    (done result : Script σ γ A β).Keeps context guar S s :=
  fun t ht => hresult t (hstable s t ht hs)

/-- A command that may be refused, and the script learns it. -/
lemma keeps_attempt {command : γ} {J : Bool → σ → Prop} (hI : context.Stable I)
    (hJ : ∀ performed, context.Stable (J performed))
    (hperformed : ∀ t u, I t → context.apply command t = some u → guar t u ∧ J true u)
    (hrefused : ∀ t, I t → context.apply command t = none → J false t) (hs : I s) :
    (attempt command : Script σ γ A Bool).Keeps context guar J s := by
  intro t ht
  have hbefore := hI s t ht hs
  cases happly : context.apply command t with
  | none => exact fun u hu => hJ false t u hu (hrefused t hbefore happly)
  | some u =>
      obtain ⟨hguar, hafter⟩ := hperformed t u hbefore happly
      exact ⟨hguar, fun v hv => hJ true u v hv hafter⟩

/-- A command that may be refused, and the script does not mind. -/
lemma keeps_perform {command : γ} (hI : context.Stable I) (hJ : context.Stable J)
    (hperformed : ∀ t u, I t → context.apply command t = some u → guar t u ∧ J u)
    (hrefused : ∀ t, I t → context.apply command t = none → J t) (hs : I s) :
    (perform command : Script σ γ A Unit).Keeps context guar (fun _ t => J t) s := by
  intro t ht
  have hbefore := hI s t ht hs
  cases happly : context.apply command t with
  | none => exact fun u hu => hJ t u hu (hrefused t hbefore happly)
  | some u =>
      obtain ⟨hguar, hafter⟩ := hperformed t u hbefore happly
      exact ⟨hguar, fun v hv => hJ u v hv hafter⟩

/-- What is read is true, and the others may have gone on from it. -/
lemma keeps_get (hI : context.Stable I) (hs : I s) :
    (get : Script σ γ A σ).Keeps context guar (fun seen t => I seen ∧ context.rely seen t) s :=
  fun t ht _ hu => ⟨hI s t ht hs, hu⟩

/-- What is answered may be answered. -/
lemma keeps_inquire {question : ι} (hI : context.Stable I) (hs : I s) :
    (inquire question : Script σ γ A (A question)).Keeps context guar
      (fun answer t => I t ∧ context.may question answer) s :=
  fun _ hmay t ht => ⟨hI s t ht hs, hmay⟩

/-- **The invariant rule.**  What the others leave alone and every command keeps, a script keeps. -/
lemma keeps_of_only (hrely : context.Stable I)
    (hcommand : ∀ command, P command → ∀ s t, I s → context.apply command s = some t →
      guar s t ∧ I t)
    {script : Script σ γ A β} (honly : script.Only P Q) (hinv : I s) :
    script.Keeps context guar (fun result t => I t ∧ Q result) s := by
  induction script generalizing s with
  | done result => exact fun t ht => ⟨hrely s t ht hinv, honly⟩
  | exec command next ih =>
      intro t ht
      have hbefore := hrely s t ht hinv
      cases happly : context.apply command t with
      | none => exact ih false (honly.2 false) hbefore
      | some u =>
          obtain ⟨hguar, hafter⟩ := hcommand command honly.1 t u hbefore happly
          exact ⟨hguar, ih true (honly.2 true) hafter⟩
  | read next ih => exact fun t ht => ih t (honly t) (hrely s t ht hinv)
  | ask question next ih => exact fun answer _ => ih answer (honly answer) hinv

end Script

end Foundation
