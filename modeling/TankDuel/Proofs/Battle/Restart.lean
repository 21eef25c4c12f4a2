import TankDuel.Proofs.Battle.Damage
import TankDuel.Proofs.Battle.Interference
import TankDuel.Proofs.Battle.Outcome

/-!
# Fresh starts

A battle that is started afresh goes by its settings, its arena and the programs that are installed,
and by nothing else. These three are its **setup** (`Battle.setup`), and every setup has a battle
that has not begun (`Setup.battle`).

* `setup_serve` — what a request makes of the setup, it makes of it whatever has been played before.
  Micro-steps and turns leave the setup alone, and the settings never change.
* `setup_after` — so the setup after a run is read off the requests, and those that play on can be
  left out (`Setup.after_filter`).
* `after_battle` — where no request plays on, every battle of the run is the fresh one of its setup.

`reset_after` puts these together: a fresh start after any run gives the battle that the setting up
alone would have given, so everything that is asked of it is answered as if nothing had been played.
-/

namespace TankDuel

/-- Whether a request plays on can be checked. -/
instance (request : Request) : Decidable request.PlaysOn :=
  match request with
  | .step _ | .run _ | .resolve => .isTrue trivial
  | .setLevel _ | .setArena _ | .load _ | .install _ | .reset => .isFalse id

/-- What a fresh start goes by. -/
structure Setup where
  config : Config
  arena : Arena
  programs : Option (Pair Program)

namespace Setup

/-- The battle that has not begun. -/
def battle (s : Setup) : Battle := .fresh s.config s.arena s.programs

/-- What a request makes of a setup. -/
def serve (s : Setup) : Request → Setup
  | .setLevel level => { s with arena := level.arena }
  | .setArena arena => { s with arena }
  | .load sources =>
    match Battle.compilePair sources with
    | .ok programs => { s with programs := some programs }
    | .error _ => s
  | .install programs => { s with programs := some programs }
  | .reset | .step _ | .run _ | .resolve => s

/-- The setup after some requests. -/
def after (s : Setup) (requests : List Request) : Setup := requests.foldl serve s

/-- Requests are followed one after another. -/
@[simp] theorem after_cons (s : Setup) (request : Request) (requests : List Request) :
    s.after (request :: requests) = (s.serve request).after requests := rfl

variable {s : Setup} {request : Request} {requests : List Request}

/-- Playing on leaves the setup as it is. -/
theorem serve_of_playsOn (playsOn : request.PlaysOn) : s.serve request = s := by
  cases request with
  | step | run | resolve => rfl
  | setLevel | setArena | load | install | reset => exact playsOn.elim

/-- Playing on leaves the setup as it is, for any requests. -/
private theorem after_of_playsOn (playsOn : ∀ request ∈ requests, request.PlaysOn) :
    s.after requests = s := by
  induction requests with
  | nil => rfl
  | cons request requests ih =>
    rw [after_cons, serve_of_playsOn (playsOn request List.mem_cons_self)]
    exact ih fun request h => playsOn request (List.mem_cons_of_mem _ h)

/-- Nothing changes the settings. -/
private theorem config_serve (s : Setup) (request : Request) :
    (s.serve request).config = s.config := by
  cases request with
  | load sources =>
    rw [serve]
    cases Battle.compilePair sources with
    | error error => rfl
    | ok programs => rfl
  | setLevel | setArena | install | reset | step | run | resolve => rfl

/-- No request changes the settings. -/
theorem config_after (s : Setup) (requests : List Request) :
    (s.after requests).config = s.config := by
  induction requests generalizing s with
  | nil => rfl
  | cons request requests ih => exact (ih (s.serve request)).trans (s.config_serve request)

/-- Requests that play on can be left out. -/
theorem after_filter (s : Setup) (requests : List Request) :
    s.after (requests.filter fun request => ¬request.PlaysOn) = s.after requests := by
  induction requests generalizing s with
  | nil => rfl
  | cons request requests ih =>
    by_cases playsOn : request.PlaysOn
    · rw [List.filter_cons_of_neg (by simpa using playsOn), after_cons, serve_of_playsOn playsOn,
        ih]
    · rw [List.filter_cons_of_pos (by simpa using playsOn), after_cons, after_cons, ih]

end Setup

namespace Battle

variable {b b' : Battle} {request : Request} {requests : List Request}

/-- What a battle would be started afresh by. -/
def setup (b : Battle) : Setup := ⟨b.config, b.arena, b.programs⟩

/-- A fresh battle was started by its setup. -/
@[simp] theorem setup_battle (s : Setup) : s.battle.setup = s := rfl

/-- Resetting a battle is starting it afresh by its setup. -/
private theorem reset_eq_battle (b : Battle) : b.reset = b.setup.battle := rfl

/-! ### What a run makes of the setup -/

/-- A request that sets the battle up starts it afresh. Only source texts that are not programs
leave it as it was. -/
private theorem serve_of_setsUp (b : Battle) (setsUp : ¬request.PlaysOn) :
    (b.serve request).2 = (b.setup.serve request).battle ∨
      (b.serve request).2 = b ∧ b.setup.serve request = b.setup := by
  cases request with
  | setLevel | setArena | install | reset => exact .inl rfl
  | load sources =>
    rw [Battle.serve, load, Setup.serve]
    cases compilePair sources with
    | error error => exact .inr ⟨rfl, rfl⟩
    | ok programs => exact .inl rfl
  | step | run | resolve => exact absurd trivial setsUp

/-- Playing on leaves the setup alone. -/
private theorem setup_serve_of_playsOn (orderly : b.Orderly) (playsOn : request.PlaysOn) :
    (b.serve request).2.setup = b.setup := by
  rcases b.serve_of_playsOn playsOn with ⟨counts, ticked⟩ | resolved
  · rw [ticked]
    rfl
  · -- A turn changes the tanks, the bullets and the logs; the setup is part of the frame.
    obtain ⟨-, -, -, same⟩ := resolveTurn_eq_ok_iff.mp resolved
    rw [same]
    exact congrArg (fun f : Frame => (⟨f.config, f.arena, f.programs⟩ : Setup))
      (frame_playTurn orderly)

/-- **The setup after a request** is a matter of the request and of the setup before. -/
theorem setup_serve (orderly : b.Orderly) (request : Request) :
    (b.serve request).2.setup = b.setup.serve request := by
  by_cases playsOn : request.PlaysOn
  · rw [setup_serve_of_playsOn orderly playsOn, Setup.serve_of_playsOn playsOn]
  · rcases serve_of_setsUp b playsOn with fresh | ⟨same, kept⟩
    · rw [fresh, setup_battle]
    · rw [same, kept]

/-- The setup of a battle follows the requests, whatever has happened in between. -/
theorem setup_after (orderly : b.Orderly) (requests : List Request) :
    (b.after requests).setup = b.setup.after requests := by
  induction requests generalizing b with
  | nil => rfl
  | cons request requests ih =>
    have next : (b.serve request).2.Orderly := after_invariant Orderly.change orderly [request]
    rw [after_cons, ih next, setup_serve orderly, Setup.after_cons]

/-- **Where no request plays on**, the battle has not begun. -/
theorem after_battle (s : Setup) (setsUp : ∀ request ∈ requests, ¬request.PlaysOn) :
    s.battle.after requests = (s.after requests).battle := by
  induction requests generalizing s with
  | nil => rfl
  | cons request requests ih =>
    have once : (s.battle.serve request).2 = (s.serve request).battle := by
      rcases serve_of_setsUp s.battle (setsUp request List.mem_cons_self) with fresh | ⟨same, kept⟩
      · exact fresh
      -- What is refused leaves a battle as it was, and this one has not begun.
      · rw [same]
        exact congrArg Setup.battle kept.symm
    rw [after_cons, once, Setup.after_cons]
    exact ih _ fun request h => setsUp request (List.mem_cons_of_mem _ h)

/-! ### Fresh starts -/

/-- **Arena and programs can be put in in any order**, whatever has been played. -/
theorem install_setArena (b : Battle) (arena : Arena) (programs : Pair Program) :
    (b.setArena arena).install programs = (b.install programs).setArena arena := rfl

/-- What is played after a fresh start is undone by the next one. -/
private theorem reset_after_reset (b : Battle) (playsOn : ∀ request ∈ requests, request.PlaysOn) :
    (b.reset.after requests).reset = b.reset := by
  have fresh : b.reset.Orderly := .fresh b.config b.arena b.programs
  rw [reset_eq_battle (b.reset.after requests), setup_after fresh,
    Setup.after_of_playsOn playsOn]
  rfl

/-- **A fresh start leaves nothing behind.** Whatever the settings are and whatever has been asked
of a battle:

* a fresh start gives the battle that a new one becomes when it is given the present arena and the
  present programs, if there are any, in either order; for it makes no difference in any battle at
  all which of the two is put in first;
* it is the battle after those requests of the past that did not play on;
* two battles with the same settings, arena and programs are the same after a fresh start, so they
  answer the same requests alike and come to the same battles, with the same bullets and events;
* in particular what has been played after a fresh start can be played again after another one. -/
theorem reset_after (config : Config) (past : List Request) :
    let b := (new config).after past
    (b.programs = none → b.reset = (new config).setArena b.arena) ∧
      (∀ programs, b.programs = some programs →
        b.reset = ((new config).setArena b.arena).install programs ∧
          b.reset = ((new config).install programs).setArena b.arena) ∧
      (∀ (any : Battle) (arena : Arena) (programs : Pair Program),
        (any.setArena arena).install programs = (any.install programs).setArena arena) ∧
      b.reset = (new config).after (past.filter fun request => ¬request.PlaysOn) ∧
      (∀ other : List Request,
        let b' := (new config).after other
        b'.arena = b.arena → b'.programs = b.programs → b'.reset = b.reset ∧
          ∀ requests, b'.reset.replies requests = b.reset.replies requests ∧
            b'.reset.after requests = b.reset.after requests) ∧
      ∀ played : List Request, (∀ request ∈ played, request.PlaysOn) →
        let again := (b.reset.after played).reset
        again = b.reset ∧ ∀ requests, again.replies requests = b.reset.replies requests ∧
          again.after requests = b.reset.after requests := by
  intro b
  -- The setup of each battle below is read off its requests; a new battle is orderly.
  have start : (new config).Orderly := .fresh config Level.openField.arena none
  have setup (requests : List Request) :
      ((new config).after requests).setup = (new config).setup.after requests :=
    setup_after start requests
  have settings (requests : List Request) : ((new config).after requests).config = config :=
    (congrArg Setup.config (setup requests)).trans (Setup.config_after _ requests)
  refine ⟨fun uninstalled => ?_, fun programs installed => ⟨?_, ?_⟩, install_setArena, ?_,
    fun other => ?_, fun played playsOn => ?_⟩
  · rw [reset, settings past, uninstalled]
    rfl
  · rw [reset, settings past, installed]
    rfl
  · rw [reset, settings past, installed]
    rfl
  -- Leaving out what plays on changes no setup, and what is left never begins the battle.
  · have setsUp : ∀ request ∈ past.filter fun request => ¬request.PlaysOn, ¬request.PlaysOn :=
      fun request h => of_decide_eq_true (List.mem_filter.mp h).2
    calc b.reset
        = ((new config).setup.after past).battle := by rw [reset_eq_battle, setup past]
      _ = ((new config).setup.after (past.filter fun request => ¬request.PlaysOn)).battle := by
          rw [Setup.after_filter]
      _ = (new config).after (past.filter fun request => ¬request.PlaysOn) :=
          (after_battle (new config).setup setsUp).symm
  · intro b' arena programs
    have same : b'.reset = b.reset := by
      rw [reset, reset, settings other, settings past, arena, programs]
    rw [same]
    exact ⟨rfl, fun requests => ⟨rfl, rfl⟩⟩
  · intro again
    have same : again = b.reset := reset_after_reset b playsOn
    rw [same]
    exact ⟨rfl, fun requests => ⟨rfl, rfl⟩⟩

/-- Two bullets are in flight; another battle has got the same programs and the same arena in the
other order, and one has neither. -/
theorem reset_after_in_flight :
    let programs : Pair Program := ⟨countAndFire, countAndFire⟩
    let play : List Request := [.run 1, .run 2, .resolve]
    let b := (new {}).after ([.install programs, .setLevel .centerBlock] ++ play)
    let b' := (new {}).after [.setLevel .centerBlock, .step 2, .install programs, .step 1]
    b.bullets.length = 2 ∧ b.nextBulletId = 2 ∧ b ≠ b' ∧
      b.reset = ((new {}).setArena b.arena).install programs ∧
      b.reset = ((new {}).install programs).setArena b.arena ∧
      b'.reset.after play = b.reset.after play ∧
      (b.reset.after play).reset.replies play = b.reset.replies play ∧
      ((new {}).after [.run 1]).reset = (new {}).setArena Level.openField.arena := by
  intro programs play b b'
  have installed : b.programs = some programs := by decide +kernel
  have fresh := reset_after {} ([.install programs, .setLevel .centerBlock] ++ play)
  obtain ⟨-, set, -, -, same, again⟩ := fresh
  have both := same [.setLevel .centerBlock, .step 2, .install programs, .step 1]
    (by decide +kernel) (by decide +kernel)
  have replay := again play (by decide)
  have bare := (reset_after {} [.run 1]).1 (by decide +kernel)
  exact ⟨by decide +kernel, by decide +kernel, by decide +kernel, (set programs installed).1,
    (set programs installed).2, (both.2 play).2, (replay.2 play).1, bare⟩

end Battle

end TankDuel
