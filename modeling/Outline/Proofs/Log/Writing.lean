/-
What is written stays where it was written.

A line that is delivered goes to the end of its destination and changes
no other, be it a stream or a file (`Session.bytesAt_write`). That a file
can be written is settled when it is opened, and nothing that a session
does later closes it (`Session.GoesOn`). An output opens the place that
its own text names (`Session.openDestination_grows`), so outputs with one
text write to one file.
-/
import Outline.Proofs.Files.Opening
import Outline.Proofs.Settings.Dump
import Outline.Proofs.Text.Utf8
import Outline.Session

namespace Outline

/-- Where an output writes to. Double dots are taken out of the path of a
file before it is opened, and links are followed. -/
def LogOutput.place (files : FileSystem) (o : LogOutput) : Destination :=
  if o.destination = "stdout" then .stdout
  else if o.destination = "stderr" then .stderr
  else
    let path := FileSystem.withoutDots (.ofText o.destination)
    .file ((files.resolve? path.toText).getD [])

theorem LogOutput.place_congr {files files' : FileSystem}
    (h : ∀ path, files'.resolve? path = files.resolve? path)
    (o : LogOutput) : o.place files' = o.place files := by
  unfold place
  dsimp only
  rw [h]

/-- Without links an output writes where its path says. -/
theorem LogOutput.place_of_links_nil {files : FileSystem} {o : LogOutput}
    (hlinks : files.links = []) (hvalid : IsDestination o.destination)
    (hout : o.destination ≠ "stdout") (herr : o.destination ≠ "stderr") :
    o.place files
      = .file (FileSystem.withoutDots (.ofText o.destination)).parts := by
  obtain ⟨path, hnormal, habsolute, hpath⟩ :=
    (hvalid.resolve_left herr).resolve_left hout
  rw [place, if_neg hout, if_neg herr, ← hpath, hnormal.ofText_toText]
  dsimp only
  rw [FileSystem.resolve?_withoutDots hlinks hnormal habsolute,
    Option.getD_some]

namespace Delivery

/-- What deliveries add to a destination: their lines, in order. -/
def bytesTo (d : Destination) (deliveries : List Delivery) : List UInt8 :=
  (deliveries.filter (·.destination = d)).flatMap fun x =>
    Utf8.encode (x.line ++ "\n")

theorem bytesTo_cons (d : Destination) (x : Delivery)
    (deliveries : List Delivery) :
    bytesTo d (x :: deliveries)
      = (if x.destination = d then Utf8.encode (x.line ++ "\n") else [])
        ++ bytesTo d deliveries := by
  unfold bytesTo
  by_cases h : x.destination = d
  · rw [if_pos h, List.filter_cons, if_pos (decide_eq_true h),
      List.flatMap_cons]
  · rw [if_neg h, List.filter_cons, if_neg (mt of_decide_eq_true h),
      List.nil_append]

theorem bytesTo_append (d : Destination) (a b : List Delivery) :
    bytesTo d (a ++ b) = bytesTo d a ++ bytesTo d b := by
  rw [bytesTo, List.filter_append, List.flatMap_append]
  rfl

end Delivery

-- =============================================================== sessions

namespace Session

variable {s s₁ s₂ : Session} {d d' : Destination}
  {deliveries : List Delivery}

/-- What has been written to a destination. -/
def bytesAt (s : Session) : Destination → List UInt8
  | .stdout => Utf8.encode s.stdout
  | .stderr => Utf8.encode s.stderr
  | .file p => s.files.bytesOf p

/-- What is written to a destination is kept there. -/
def Keeps (s : Session) (d : Destination) : Prop :=
  ∀ p, d = .file p → s.files.Keeps p

/-- A destination can be written. -/
def IsOpen (s : Session) (d : Destination) : Prop :=
  ∀ p, d = .file p → s.files.IsOpen p

/-- A session goes on in another: nothing is closed, paths lead where they
led, and the clock stands still. -/
structure GoesOn (s s' : Session) : Prop where
  clock : s'.clock = s.clock
  place : ∀ o : LogOutput, o.place s'.files = o.place s.files
  isOpen : ∀ d, s.IsOpen d → s'.IsOpen d
  keeps : ∀ d, s.Keeps d → s'.Keeps d

namespace GoesOn

theorem refl (s : Session) : s.GoesOn s :=
  ⟨rfl, fun _ => rfl, fun _ => id, fun _ => id⟩

theorem trans (h : s.GoesOn s₁) (h₁ : s₁.GoesOn s₂) : s.GoesOn s₂ :=
  ⟨h₁.clock.trans h.clock, fun o => (h₁.place o).trans (h.place o),
    fun d hd => h₁.isOpen d (h.isOpen d hd),
    fun d hd => h₁.keeps d (h.keeps d hd)⟩

end GoesOn

-- ---------------------------------------------------------------- writing

theorem write_goesOn (s : Session) (d : Destination) (text : String) :
    s.GoesOn (s.write d text) := by
  cases d with
  | stdout => exact ⟨rfl, fun _ => rfl, fun _ => id, fun _ => id⟩
  | stderr => exact ⟨rfl, fun _ => rfl, fun _ => id, fun _ => id⟩
  | file p =>
      refine ⟨rfl, fun o => ?_, fun d hd q hq => (hd q hq).append p _,
        fun d hd q hq => (hd q hq).append p _⟩
      exact LogOutput.place_congr (FileSystem.resolve?_append _ p _) o

/-- A text goes to the end of its destination, and nowhere else. -/
theorem bytesAt_write (hopen : s.IsOpen d) (hkeeps : s.Keeps d')
    (text : String) :
    (s.write d text).bytesAt d'
      = s.bytesAt d' ++ if d = d' then Utf8.encode text else [] := by
  by_cases hd : d = d'
  · rw [if_pos hd]
    subst hd
    cases d with
    | stdout => exact Utf8.encode_append s.stdout text
    | stderr => exact Utf8.encode_append s.stderr text
    | file p => exact FileSystem.bytesOf_append (hopen p rfl) (hkeeps p rfl) _
  · rw [if_neg hd, List.append_nil]
    cases d with
    | stdout =>
        cases d' with
        | stdout => exact absurd rfl hd
        | stderr => rfl
        | file q => rfl
    | stderr =>
        cases d' with
        | stdout => rfl
        | stderr => exact absurd rfl hd
        | file q => rfl
    | file p =>
        cases d' with
        | stdout => rfl
        | stderr => rfl
        | file q =>
            refine FileSystem.bytesOf_append_of_ne (fun heq => hd ?_) _
            rw [heq]

theorem router_write (s : Session) (d : Destination) (text : String) :
    (s.write d text).router = s.router := by
  cases d <;> rfl

theorem router_carry (s : Session) (deliveries : List Delivery) :
    (s.carry deliveries).router = s.router := by
  induction deliveries generalizing s with
  | nil => rfl
  | cons x rest ih => exact (ih _).trans (s.router_write _ _)

/-- Deliveries to what is open add their lines. -/
theorem bytesAt_carry (hopen : ∀ x ∈ deliveries, s.IsOpen x.destination) :
    s.GoesOn (s.carry deliveries) ∧ ∀ d, s.Keeps d →
      (s.carry deliveries).bytesAt d
        = s.bytesAt d ++ Delivery.bytesTo d deliveries := by
  induction deliveries generalizing s with
  | nil => exact ⟨.refl s, fun d _ => (List.append_nil _).symm⟩
  | cons x rest ih =>
      obtain ⟨hfirst, hrest⟩ := List.forall_mem_cons.mp hopen
      have hgo := s.write_goesOn x.destination (x.line ++ "\n")
      obtain ⟨hgoes, hbytes⟩ := ih fun y hy => hgo.isOpen _ (hrest y hy)
      refine ⟨hgo.trans hgoes, fun d hd => ?_⟩
      calc (s.carry (x :: rest)).bytesAt d
          = (s.write x.destination (x.line ++ "\n")).bytesAt d
              ++ Delivery.bytesTo d rest := hbytes d (hgo.keeps d hd)
        _ = s.bytesAt d ++ Delivery.bytesTo d (x :: rest) := by
            rw [bytesAt_write hfirst hd, Delivery.bytesTo_cons,
              List.append_assoc]

-- ---------------------------------------------------------------- opening

/-- Files that are opened and a new router change nothing that is
written. -/
theorem goesOn_opened {fs : FileSystem} (hgrows : s.files.Grows fs)
    (router : Router) :
    s.GoesOn { s with files := fs, router := router }
      ∧ ∀ d, ({ s with files := fs, router := router } : Session).bytesAt d
        = s.bytesAt d := by
  refine ⟨⟨rfl, LogOutput.place_congr hgrows.resolve?,
    fun d hd p hp => hgrows.isOpen (hd p hp),
    fun d hd p hp => hgrows.keeps (hd p hp)⟩, fun d => ?_⟩
  cases d with
  | stdout => rfl
  | stderr => rfl
  | file p => exact hgrows.bytesOf p

/-- What is opened for an output is its place. -/
theorem openDestination_grows {fs gs : FileSystem} {o : LogOutput}
    (h : openDestination fs o.destination = .ok (d, gs)) :
    fs.Grows gs ∧ d = o.place fs ∧ ∀ p, d = .file p → gs.IsOpen p := by
  unfold openDestination at h
  unfold LogOutput.place
  split at h
  next hout =>
    cases h
    rw [if_pos (beq_iff_eq.mp hout)]
    exact ⟨.refl fs, rfl, nofun⟩
  next hout =>
    rw [if_neg (mt beq_iff_eq.mpr hout)]
    split at h
    next herr =>
      cases h
      rw [if_pos (beq_iff_eq.mp herr)]
      exact ⟨.refl fs, rfl, nofun⟩
    next herr =>
      rw [if_neg (mt beq_iff_eq.mpr herr)]
      dsimp only at h ⊢
      split at h
      next => cases h
      next ks hmade =>
        split at h
        next => cases h
        next p gs hopened =>
          cases h
          obtain ⟨hgrows, hopen, hplace⟩ :=
            FileSystem.openForAppend_grows hopened
          have hmade := FileSystem.makeDirectory_grows hmade
          -- the directories that were made lead no path elsewhere
          rw [hmade.resolve?] at hplace
          refine ⟨hmade.trans hgrows, ?_, ?_⟩
          · rw [hplace, Option.getD_some]
          · rintro q ⟨⟩
            exact hopen

end Session

end Outline
