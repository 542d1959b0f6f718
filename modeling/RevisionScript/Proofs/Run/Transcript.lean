import Mathlib.Data.List.Basic
import RevisionScript.Proofs.Run.Session

namespace RevisionScript

namespace Database

variable {W : Type} (db : Database W)

def respond : Call → W → Bool × W
  | .connect path, w => ((db.connect path w).1.isOk, (db.connect path w).2)
  | .execute sql, w => ((db.execute sql w).1.isOk, (db.execute sql w).2)
  | .commit, w => ((db.commit w).1.isOk, (db.commit w).2)
  | .rollback, w => ((db.rollback w).1.isOk, (db.rollback w).2)
  | .close, w => ((db.close w).1.isOk, (db.close w).2)

def transcript : List Call → W → List (Call × Bool)
  | [], _ => []
  | c :: cs, w => (c, (db.respond c w).1) :: transcript cs (db.respond c w).2

def after (calls : List Call) (w : W) : W := calls.foldl (fun w c ↦ (db.respond c w).2) w

variable {db} {cs ds : List Call} {w : W}

@[simp] theorem after_nil : db.after [] w = w := rfl

@[simp] theorem after_cons (c : Call) : db.after (c :: cs) w = db.after cs (db.respond c w).2 := rfl

theorem after_append : db.after (cs ++ ds) w = db.after ds (db.after cs w) := List.foldl_append

@[simp] theorem transcript_nil : db.transcript [] w = [] := rfl

@[simp] theorem transcript_cons (c : Call) :
    db.transcript (c :: cs) w =
      (c, (db.respond c w).1) :: db.transcript cs (db.respond c w).2 := rfl

theorem transcript_append :
    db.transcript (cs ++ ds) w = db.transcript cs w ++ db.transcript ds (db.after cs w) := by
  induction cs generalizing w with
  | nil => rfl
  | cons c cs ih => simp [ih]

end Database

def executions (log : List (Call × Bool)) : List (String × Bool) :=
  log.filterMap fun
    | (.execute sql, succeeded) => some (sql, succeeded)
    | _ => none

theorem executions_append (log log' : List (Call × Bool)) :
    executions (log ++ log') = executions log ++ executions log' := List.filterMap_append

namespace Act

variable {W α β : Type} {db : Database W} {act : Act W α} {next : α → Act W β} {s : Session W}
  {P : List Call → Except Failure α → Prop} {Q : List Call → Except Failure β → Prop}

/-- An action makes some calls, through which alone it changes the world, and gives a reply. -/
structure Gives (db : Database W) (act : Act W α) (s : Session W) (cs : List Call)
    (r : Except Failure α) : Prop where
  calls : (final act s).calls = s.calls ++ cs
  world : (final act s).world = db.after cs s.world
  reply : reply act s = r

section

variable {cs ds : List Call} {a : α} {r : Except Failure β}

theorem gives_of_final (h : final act s = s) : Gives db act s [] (reply act s) := by
  refine ⟨?_, ?_, rfl⟩
  · rw [h, List.append_nil]
  · rw [h, Database.after_nil]

theorem gives_pure (a : α) : Gives db (pure a) s [] (.ok a) := gives_of_final rfl

theorem gives_ofExcept (r : Except Failure α) : Gives db (ofExcept r) s [] r := by
  have h : Gives db (ofExcept r) s [] (reply (ofExcept r) s) := gives_of_final (final_ofExcept r s)
  rwa [reply_ofExcept] at h

theorem gives_observe {f : W → α} (h : Gives db (next (f s.world)) s cs r) :
    Gives db (observe f >>= next) s cs r := by
  have heq : (observe f >>= next : Act W β) s = next (f s.world) s := bind_observe
  refine ⟨?_, ?_, ?_⟩
  · rw [final, heq]
    exact h.calls
  · rw [final, heq]
    exact h.world
  · rw [reply, heq]
    exact h.reply

theorem gives_call {c : Call} {step : W → Except Failure α × W}
    (hw : (step s.world).2 = (db.respond c s.world).2) :
    Gives db (call c step) s [c] (step s.world).1 := by
  refine ⟨?_, ?_, reply_call c step s⟩
  · rw [final_call]
  · rw [final_call, Database.after_cons, Database.after_nil, hw]

theorem Gives.attempt {r : Except Failure α} (h : Gives db act s cs r) :
    Gives db (attempt act) s cs (.ok r) := by
  refine ⟨?_, ?_, ?_⟩
  · rw [final_attempt, h.calls]
  · rw [final_attempt, h.world]
  · rw [reply_attempt, h.reply]

theorem Gives.bind_error {e : Failure} (h : Gives db act s cs (.error e)) :
    Gives db (act >>= next) s cs (.error e) := by
  obtain ⟨hreply, hfinal⟩ := bind_of_error next h.reply
  refine ⟨?_, ?_, hreply⟩
  · rw [hfinal, h.calls]
  · rw [hfinal, h.world]

theorem Gives.bind_ok (h : Gives db act s cs (.ok a))
    (hnext : Gives db (next a) (final act s) ds r) : Gives db (act >>= next) s (cs ++ ds) r := by
  obtain ⟨hreply, hfinal⟩ := bind_of_ok next h.reply
  refine ⟨?_, ?_, ?_⟩
  · rw [hfinal, hnext.calls, h.calls, List.append_assoc]
  · rw [hfinal, hnext.world, h.world, Database.after_append]
  · rw [hreply, hnext.reply]

/-- What follows starts from a session that is known only by its world. -/
theorem Gives.bind (h : Gives db act s cs (.ok a))
    (hnext : ∀ s', s'.world = db.after cs s.world → Gives db (next a) s' ds r) :
    Gives db (act >>= next) s (cs ++ ds) r := h.bind_ok (hnext _ h.world)

theorem Gives.map {r : Except Failure α} (h : Gives db act s cs r) (f : α → β) :
    Gives db (do
      let a ← act
      return f a) s cs (f <$> r) := by
  cases r with
  | error e => exact h.bind_error
  | ok a =>
    rw [← List.append_nil cs]
    exact h.bind fun s' _ ↦ gives_pure (f a)

theorem gives_say_ok {markup text : String} (h : Console.message markup = .ok text) :
    Gives db (say markup) s [] (.ok ()) := by
  unfold say
  rw [h]
  exact ⟨(List.append_nil _).symm, rfl, rfl⟩

theorem gives_say_error {markup : String} {e : MarkupFailure}
    (h : Console.message markup = .error e) : Gives db (say markup) s [] (.error (.markup e)) := by
  unfold say
  rw [h]
  exact gives_ofExcept _

end

/-- An action makes calls, through which alone it changes the world, and a postcondition holds of
these calls and the reply. -/
def Does (db : Database W) (act : Act W α) (s : Session W)
    (P : List Call → Except Failure α → Prop) : Prop :=
  ∃ cs, (final act s).calls = s.calls ++ cs ∧ (final act s).world = db.after cs s.world ∧
    P cs (reply act s)

theorem Gives.does {cs : List Call} {r : Except Failure α} (h : Gives db act s cs r) (hp : P cs r) :
    Does db act s P := ⟨cs, h.calls, h.world, h.reply ▸ hp⟩

theorem Does.exists_gives (h : Does db act s P) : ∃ cs r, Gives db act s cs r ∧ P cs r := by
  obtain ⟨cs, hc, hw, hp⟩ := h
  exact ⟨cs, _, ⟨hc, hw, rfl⟩, hp⟩

theorem does_throw {e : Failure} (h : P [] (.error e)) : Does db (throw e) s P :=
  (gives_of_final rfl).does h

theorem does_observe {f : W → α} (h : Does db (next (f s.world)) s Q) :
    Does db (observe f >>= next) s Q := by
  obtain ⟨cs, r, hg, hq⟩ := h.exists_gives
  exact (gives_observe hg).does hq

/-- What follows starts from a session that is known only by its world. -/
theorem Does.bind (h : Does db act s P) (herror : ∀ cs e, P cs (.error e) → Q cs (.error e))
    (hok : ∀ cs a s', s'.world = db.after cs s.world → P cs (.ok a) →
      Does db (next a) s' fun ds r ↦ Q (cs ++ ds) r) :
    Does db (act >>= next) s Q := by
  obtain ⟨cs, r, hg, h⟩ := h.exists_gives
  cases r with
  | error e => exact hg.bind_error.does (herror cs e h)
  | ok a =>
    obtain ⟨ds, r, hnext, hq⟩ := (hok cs a _ hg.world h).exists_gives
    exact (hg.bind_ok hnext).does hq

end Act

end RevisionScript
