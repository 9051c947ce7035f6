import PolicyHost.Proofs.Keyed
import PolicyHost.Proofs.Session.Launch
import PolicyHost.Service

/-!
# Sessions apart from each other

The sessions of a service share an engine, and the engine has a cache. What
keeps them apart is that the cache is `Sound`: what it has under a key is what
compiling the image of that key gives, so it makes no difference whether an
image is found there. This needs the images that are used to have different
keys (`Distinguished`), which is what a digest is for. Requests on other names
look up and change other sessions only.

`Alike` is what two services need to have in common so that the requests on one
name come to the same on both: the configuration, the registry, a sound cache
each and the session of that name. Serving any other request on one of the two
keeps them alike, and so does serving a request on the name on both, which is
then answered the same way (`replies_alone`).
-/

namespace PolicyHost

open Json Guest

/-- No two of the images have one key. -/
def Distinguished (used : Image → Prop) : Prop :=
  ∀ image other, used image → used other → image.key = other.key → image = other

/-! ## The cache -/

namespace ModuleCache

variable {compiler : Compiler} {used : Image → Prop} {c : ModuleCache ModuleKey Guest}
  {image : Image} {g : Guest}

/-- What the cache has under a key is what compiling an image of that key gives. -/
def Sound (compiler : Compiler) (used : Image → Prop) (c : ModuleCache ModuleKey Guest) : Prop :=
  ∀ entry ∈ c.entries, ∃ image,
    used image ∧ image.key = entry.1 ∧ image.compile compiler = .ok entry.2

theorem Sound.without (h : c.Sound compiler used) (key : ModuleKey) :
    ∀ entry ∈ without key c.entries,
    ∃ image, used image ∧ image.key = entry.1 ∧ image.compile compiler = .ok entry.2 :=
  fun entry hmem => h entry (List.mem_filter.mp hmem).1

/-- The key of an image is found with what the image is compiled to. -/
theorem Sound.get (h : c.Sound compiler used) (hdigest : Distinguished used) (hused : used image) :
    (c.get image.key).2.Sound compiler used ∧
      ∀ found, (c.get image.key).1 = some found → image.compile compiler = .ok found := by
  rw [ModuleCache.get]
  cases hfind : c.entries.find? (·.1 = image.key) with
  | none => exact ⟨h, fun found hfound => nomatch hfound⟩
  | some entry =>
      obtain ⟨key, g⟩ := entry
      have hkey : key = image.key := by simpa using List.find?_some hfind
      obtain ⟨other, hother, hsame, hcompile⟩ := h _ (List.mem_of_find?_eq_some hfind)
      rw [hdigest other image hother hused (hsame.trans hkey)] at hcompile
      refine ⟨fun entry hmem => ?_, fun found hfound => ?_⟩
      · rcases List.mem_cons.mp hmem with rfl | hmem
        · exact ⟨image, hused, rfl, hcompile⟩
        · exact h.without image.key entry hmem
      · cases hfound
        exact hcompile

theorem Sound.insert (h : c.Sound compiler used) (hused : used image)
    (hcompile : image.compile compiler = .ok g) :
    (c.insert image.key g).Sound compiler used := by
  intro entry hmem
  rcases List.mem_cons.mp (List.mem_of_mem_take hmem) with rfl | hmem
  · exact ⟨image, hused, rfl, hcompile⟩
  · exact h.without image.key entry hmem

theorem sound_clear (c : ModuleCache ModuleKey Guest) : c.clear.Sound compiler used :=
  fun _ hmem => nomatch hmem

end ModuleCache

/-! ## The engine -/

namespace Engine

/-- What loading an image comes to without a cache. -/
def loadAfresh (e : Engine) (image : Image) : Except Error Session × List String :=
  match image.compile e.compiler with
  | .error fault => (.error fault, [])
  | .ok g => Session.launch g e.config e.registry

/-- An engine that differs from the one that was made in its cache only, which is sound. -/
structure Settled (used : Image → Prop) (made e : Engine) : Prop where
  compiler : e.compiler = made.compiler
  config : e.config = made.config
  registry : e.registry = made.registry
  sound : e.cache.Sound made.compiler used

section

variable {used : Image → Prop} {made e : Engine} {image : Image} (h : Settled used made e)
  (hdigest : Distinguished used) (hused : used image)
include h hdigest hused

/-- An engine with a sound cache compiles as one without, and keeps its cache sound. -/
theorem Settled.compile :
    (e.compile image).1 = image.compile made.compiler ∧
      Settled used made (e.compile image).2 := by
  obtain ⟨hkept, hfound⟩ := h.sound.get hdigest hused
  rw [Engine.compile, h.compiler]
  split
  · next g cache hget =>
      rw [hget] at hkept hfound
      exact ⟨(hfound g rfl).symm, rfl, h.config, h.registry, hkept⟩
  · next cache hget =>
      rw [hget] at hkept
      cases hcompile : image.compile made.compiler with
      | ok g => exact ⟨rfl, rfl, h.config, h.registry, hkept.insert hused hcompile⟩
      | error fault => exact ⟨rfl, rfl, h.config, h.registry, hkept⟩

theorem Settled.load :
    (e.load image).1 = made.loadAfresh image ∧ Settled used made (e.load image).2 := by
  obtain ⟨hcompile, hsettled⟩ := h.compile hdigest hused
  rw [Engine.load, loadAfresh]
  split
  · next fault e' hrun =>
      rw [hrun] at hcompile hsettled
      rw [← hcompile]
      exact ⟨rfl, hsettled⟩
  · next g e' hrun =>
      rw [hrun] at hcompile hsettled
      rw [← hcompile, ← hsettled.config, ← hsettled.registry]
      exact ⟨rfl, hsettled⟩

end

end Engine

namespace Service

variable {used : Image → Prop} {made : Engine} {name other : String} {request : Request}
  {s t : Service}

/-! ## One request -/

/-- A request that is not about the session of a name leaves it alone. -/
theorem respond_elsewhere (h : ¬ (other = name ∧ request.concernsSession = true)) :
    (s.respond other request).2.2.session? name = s.session? name := by
  have hname (hconcerns : request.concernsSession = true) : name ≠ other :=
    fun heq => h ⟨heq.symm, hconcerns⟩
  cases request with
  | load image =>
      rw [respond, load]
      split
      · rw [session?, Keyed.get?_insert, if_neg (hname rfl), Keyed.get?_erase, if_neg (hname rfl)]
        rfl
      · rw [session?, Keyed.get?_erase, if_neg (hname rfl)]
        rfl
  | operate operation =>
      rw [respond, operate]
      split
      · rfl
      · exact (Keyed.get?_insert ..).trans (if_neg (hname rfl))
  | tables =>
      rw [respond]
      split <;> rfl
  | look | compile | cache | clearCache | info => rfl

/-- Looking at a session leaves all others alone. -/
theorem observe_elsewhere (h : name ≠ other) :
    (s.observe other).2.session? name = s.session? name := by
  rw [observe]
  split
  · rfl
  · exact (Keyed.get?_insert ..).trans (if_neg h)

/-- A request about a session is answered, and then the session is looked at. -/
theorem serve_session (h : request.concernsSession = true) (name : String) (s : Service) :
    s.serve name request =
      let answered := (s.respond name request).2.2
      (⟨(s.respond name request).1, (s.respond name request).2.1, (answered.observe name).1⟩,
        (answered.observe name).2) := by
  rw [serve]
  exact if_pos h

theorem serve_engine (h : ¬ request.concernsSession = true) (name : String) (s : Service) :
    s.serve name request =
      (⟨(s.respond name request).1, (s.respond name request).2.1, none⟩,
        (s.respond name request).2.2) := by
  rw [serve]
  exact if_neg h

theorem session_serve_elsewhere (h : ¬ (other = name ∧ request.concernsSession = true)) :
    (s.serve other request).2.session? name = s.session? name := by
  by_cases hconcerns : request.concernsSession = true
  · rw [serve_session hconcerns]
    exact (observe_elsewhere fun heq => h ⟨heq.symm, hconcerns⟩).trans (respond_elsewhere h)
  · rw [serve_engine hconcerns]
    exact respond_elsewhere h

/-- What a session shows comes from that session, and so does what looking at it leaves. -/
theorem observe_here (h : s.session? name = t.session? name) :
    (s.observe name).1 = (t.observe name).1 ∧
      (s.observe name).2.session? name = (t.observe name).2.session? name := by
  rw [observe, observe, ← h]
  split
  · exact ⟨rfl, h⟩
  · refine ⟨rfl, ?_⟩
    exact (Keyed.get?_insert ..).trans ((if_pos rfl).trans
      ((Keyed.get?_insert ..).trans (if_pos rfl)).symm)

theorem engine_observe (s : Service) (name : String) : (s.observe name).2.engine = s.engine := by
  rw [observe]
  split <;> rfl

def Request.image? : Request → Option Image
  | .load image | .compile image => some image
  | _ => none

section

variable (hdigest : Distinguished used)
include hdigest

theorem load_eq (h : Engine.Settled used made s.engine) (name : String) {image : Image}
    (hused : used image) :
    s.load name image =
      match made.loadAfresh image with
      | (.ok session, printed) => (.result (.ok .null), printed,
          ⟨(s.engine.load image).2, (s.sessions.erase name).insert name session⟩)
      | (.error e, printed) => (.result (.error e), printed,
          ⟨(s.engine.load image).2, s.sessions.erase name⟩) := by
  rw [← (h.load hdigest hused).1, load]
  split <;> next hrun => rw [hrun]

theorem settled_respond (h : Engine.Settled used made s.engine) (name : String)
    (hused : ∀ image, request.image? = some image → used image) :
    Engine.Settled used made (s.respond name request).2.2.engine := by
  cases request with
  | load image =>
      rw [respond, load_eq hdigest h name (hused image rfl)]
      split <;> exact (h.load hdigest (hused image rfl)).2
  | operate operation =>
      rw [respond, operate]
      split <;> exact h
  | look | cache | info => exact h
  | tables =>
      rw [respond]
      split <;> exact h
  | compile image => exact (h.compile hdigest (hused image rfl)).2
  | clearCache => exact ⟨h.compiler, h.config, h.registry, ModuleCache.sound_clear _⟩

theorem settled_serve (h : Engine.Settled used made s.engine) (name : String)
    (hused : ∀ image, request.image? = some image → used image) :
    Engine.Settled used made (s.serve name request).2.engine := by
  have hsettled := settled_respond hdigest h name hused
  by_cases hconcerns : request.concernsSession = true
  · rw [serve_session hconcerns, engine_observe]
    exact hsettled
  · rw [serve_engine hconcerns]
    exact hsettled

/-- A request about the session of a name is answered from that session. -/
theorem respond_here (hs : Engine.Settled used made s.engine)
    (ht : Engine.Settled used made t.engine)
    (hused : ∀ image, request.image? = some image → used image)
    (hsession : s.session? name = t.session? name) (hconcerns : request.concernsSession = true) :
    (s.respond name request).1 = (t.respond name request).1 ∧
      (s.respond name request).2.1 = (t.respond name request).2.1 ∧
      (s.respond name request).2.2.session? name = (t.respond name request).2.2.session? name := by
  cases request with
  | load image =>
      rw [respond, respond, load_eq hdigest hs name (hused image rfl),
        load_eq hdigest ht name (hused image rfl)]
      split
      · refine ⟨rfl, rfl, ?_⟩
        rw [session?, session?, Keyed.get?_insert, Keyed.get?_insert, if_pos rfl, if_pos rfl]
      · refine ⟨rfl, rfl, ?_⟩
        rw [session?, session?, Keyed.get?_erase, Keyed.get?_erase, if_pos rfl, if_pos rfl]
  | operate operation =>
      rw [respond, respond, operate, operate, ← hsession]
      split
      · exact ⟨rfl, rfl, hsession⟩
      · refine ⟨rfl, rfl, ?_⟩
        exact (Keyed.get?_insert ..).trans ((if_pos rfl).trans
          ((Keyed.get?_insert ..).trans (if_pos rfl)).symm)
  | look =>
      refine ⟨?_, rfl, hsession⟩
      rw [respond, respond, hsession]
  | tables =>
      rw [respond, respond, ← hsession]
      split <;> exact ⟨rfl, rfl, hsession⟩
  | compile | cache | clearCache | info => cases hconcerns

/-- Two services that a name cannot tell apart. -/
structure Alike (used : Image → Prop) (made : Engine) (name : String) (s t : Service) : Prop where
  left : Engine.Settled used made s.engine
  right : Engine.Settled used made t.engine
  session : s.session? name = t.session? name

theorem Alike.serve_elsewhere (h : Alike used made name s t)
    (hused : ∀ image, request.image? = some image → used image)
    (helse : ¬ (other = name ∧ request.concernsSession = true)) :
    Alike used made name (s.serve other request).2 t where
  left := settled_serve hdigest h.left other hused
  right := h.right
  session := (session_serve_elsewhere helse).trans h.session

theorem Alike.serve_here (h : Alike used made name s t)
    (hused : ∀ image, request.image? = some image → used image)
    (hconcerns : request.concernsSession = true) :
    (s.serve name request).1 = (t.serve name request).1 ∧
      Alike used made name (s.serve name request).2 (t.serve name request).2 := by
  obtain ⟨houtcome, hprinted, hsession⟩ :=
    respond_here hdigest h.left h.right hused h.session hconcerns
  obtain ⟨hstatus, hobserved⟩ := observe_here hsession
  refine ⟨?_, settled_serve hdigest h.left name hused, settled_serve hdigest h.right name hused, ?_⟩
  · rw [serve_session hconcerns, serve_session hconcerns]
    simp only [houtcome, hprinted, hstatus]
  · rw [serve_session hconcerns, serve_session hconcerns]
    exact hobserved

end

/-! ## All requests -/

/-- A request and the name that it is put to. -/
abbrev Turn := String × Request

/-- Whether a turn is about the session of a name. -/
def concerns (name : String) (turn : Turn) : Bool :=
  turn.1 = name && turn.2.concernsSession

def images (turns : List Turn) : List Image :=
  turns.filterMap fun turn => turn.2.image?

def replies : List Turn → Service → List Reply
  | [], _ => []
  | turn :: turns, s => (s.serve turn.1 turn.2).1 :: (s.serve turn.1 turn.2).2.replies turns

/-- Those of the replies that the turns about the session of a name get. -/
def repliesTo (name : String) : List Turn → Service → List Reply
  | [], _ => []
  | turn :: turns, s =>
      let rest := (s.serve turn.1 turn.2).2.repliesTo name turns
      if concerns name turn then (s.serve turn.1 turn.2).1 :: rest else rest

def after : List Turn → Service → Service
  | [], s => s
  | turn :: turns, s => (s.serve turn.1 turn.2).2.after turns

/-- What the turns about the session of a name come to does not depend on the turns between them. -/
theorem Alike.replies_eq (h : Alike used made name s t) (hdigest : Distinguished used)
    {turns : List Turn} (hused : ∀ image ∈ images turns, used image) :
    s.repliesTo name turns = t.replies (turns.filter (concerns name)) ∧
      Alike used made name (s.after turns)
        (t.after (turns.filter (concerns name))) := by
  induction turns generalizing s t with
  | nil => exact ⟨rfl, h⟩
  | cons turn turns ih =>
      obtain ⟨other, request⟩ := turn
      have hfirst (image : Image) (himage : request.image? = some image) : used image :=
        hused image (List.mem_filterMap.mpr ⟨_, List.mem_cons_self, himage⟩)
      have hrest (image : Image) (himage : image ∈ images turns) : used image := by
        obtain ⟨turn, hturn, hbrings⟩ := List.mem_filterMap.mp himage
        exact hused image (List.mem_filterMap.mpr ⟨turn, List.mem_cons_of_mem _ hturn, hbrings⟩)
      cases hconcerns : concerns name (other, request) with
      | true =>
          have hhere := hconcerns
          simp only [concerns, Bool.and_eq_true, decide_eq_true_eq] at hhere
          obtain ⟨rfl, hrequest⟩ := hhere
          obtain ⟨hreply, hnext⟩ := h.serve_here hdigest hfirst hrequest
          obtain ⟨hreplies, hafter⟩ := ih hnext hrest
          rw [List.filter_cons_of_pos hconcerns]
          refine ⟨?_, hafter⟩
          rw [repliesTo, replies, if_pos hconcerns, hreply, hreplies]
      | false =>
          have hnot : ¬ concerns name (other, request) = true := by
            rw [hconcerns]
            exact Bool.false_ne_true
          have helse : ¬ (other = name ∧ request.concernsSession = true) := by
            simpa [concerns] using hconcerns
          -- Only one of the two services has this turn to serve.
          obtain ⟨hreplies, hafter⟩ := ih (h.serve_elsewhere hdigest hfirst helse) hrest
          rw [List.filter_cons_of_neg hnot]
          refine ⟨?_, hafter⟩
          rw [repliesTo, if_neg hnot, hreplies]

/-- The cache of an engine that was just made is sound. -/
theorem settled_create {compiler : Compiler} {config : Config} {registry : Builtin.Registry}
    {engine : Engine} (h : Engine.create compiler config registry = .ok engine) :
    Engine.Settled used engine engine := by
  rw [Engine.create] at h
  cases hvalid : config.validate with
  | error e =>
      rw [hvalid] at h
      cases h
  | ok _ =>
      rw [hvalid] at h
      cases h
      exact ⟨rfl, rfl, rfl, fun _ hmem => nomatch hmem⟩

/-- Whatever else a service is asked for, and whatever its cache has then, the turns about the
session of a name are answered as if there were no others, and leave the same session. -/
theorem replies_alone {compiler : Compiler} {config : Config} {registry : Builtin.Registry}
    {engine : Engine} (h : Engine.create compiler config registry = .ok engine)
    (turns : List Turn) (hdigest : Distinguished (· ∈ images turns)) (name : String) :
    let s : Service := ⟨engine, []⟩
    let alone := turns.filter (concerns name)
    s.repliesTo name turns = s.replies alone ∧
      (s.after turns).session? name = (s.after alone).session? name := by
  intro s alone
  have hsettled : Engine.Settled (· ∈ images turns) engine engine := settled_create h
  have halike : Alike (· ∈ images turns) engine name s s := ⟨hsettled, hsettled, rfl⟩
  obtain ⟨hreplies, hafter⟩ := halike.replies_eq hdigest fun _ himage => himage
  exact ⟨hreplies, hafter.session⟩

/-- Turns about two sessions, of which one is not started, with the cache cleared between them. -/
def mixed : List Turn :=
  [("a", .load (.described sample)), ("b", .load (.bytes [])), ("a", .clearCache),
   ("b", .compile (.described sample)), ("a", .operate (.setData (.json .null)))]

theorem replies_alone_mixed : ∃ engine, Engine.create .least {} .empty = .ok engine ∧
    Distinguished (· ∈ images mixed) ∧
    (⟨engine, []⟩ : Service).repliesTo "a" mixed = (⟨engine, []⟩ : Service).replies
      [("a", .load (.described sample)), ("a", .operate (.setData (.json .null)))] := by
  have hcreate : Engine.create .least {} .empty = .ok ⟨.least, {}, .empty, .withCapacity 16⟩ := by
    rw [Engine.create, Session.validate_standard]
    rfl
  have hdigest : Distinguished (· ∈ images mixed) := by
    have himages : images mixed = [.described sample, .bytes [], .described sample] := rfl
    intro image other himage hother hkey
    simp only [himages, List.mem_cons, List.not_mem_nil, or_false] at himage hother
    rcases himage with rfl | rfl | rfl <;> rcases hother with rfl | rfl | rfl <;>
      first | rfl | cases hkey
  exact ⟨_, hcreate, hdigest, (replies_alone hcreate mixed hdigest "a").1⟩

end Service

end PolicyHost
