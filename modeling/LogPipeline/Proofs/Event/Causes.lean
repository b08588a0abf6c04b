import LogPipeline.Pattern.Words.Parts

/-!
# Causes of throwables

An error is captured together with all the errors that it comes from, and none of
them is lost or moved.  What is captured is shown link by link in the order of
the chain, each link with its first few frames.

What is shown of a link is described by the lines that it consists of, apart from
the way in which they are written.
-/

namespace LogPipeline

/-! ## Capture -/

namespace Failure

/-- What an error and those that it comes from say, one after the other. -/
def messages : Failure → List String
  | .plain message => [message]
  | .causedBy message source => message :: source.messages

theorem messages_eq (failure : Failure) :
    failure.messages = failure.message :: failure.sources.map message := by
  induction failure with
  | plain message => rfl
  | causedBy message source ih =>
      rw [messages, ih]
      rfl

end Failure

namespace Throwable

/-- The links of a cause, if there is one. -/
def chainOf (cause? : Option Throwable) : List ThrowableLink :=
  cause?.elim [] chain

@[simp]
theorem chain_of (link : ThrowableLink) (cause? : Option Throwable) :
    (of link cause?).chain = link :: chainOf cause? := by
  cases cause? <;> rfl

/-- Causes that are put together from the innermost one form a chain in their order. -/
@[simp]
theorem chainOf_foldr_wrap (causes : List ThrowableLink) :
    chainOf (causes.foldr (fun link cause? => wrap cause? link) none) = causes := by
  induction causes with
  | nil => rfl
  | cons link rest ih => simpa [wrap, chainOf] using ih

theorem chain_ofFailure (className : String) (failure : Failure) :
    (ofFailure className failure).chain =
      ⟨className, failure.message, []⟩ ::
        failure.sources.map fun source => ⟨"", source.message, []⟩ := by
  simp [ofFailure]

/-- A throwable tells of an error of a class and of all that it comes from. -/
structure Captures
    (className : String)
    (failure : Failure)
    (throwable : Throwable) : Prop where
  length : throwable.chain.length = failure.sources.length + 1
  messages : throwable.chain.map ThrowableLink.message = failure.messages
  frames : ∀ link ∈ throwable.chain, link.frames = []
  classes :
    throwable.chain.map ThrowableLink.className =
      className :: List.replicate failure.sources.length ""

theorem captures_ofFailure (className : String) (failure : Failure) :
    (ofFailure className failure).Captures className failure := by
  constructor
  · simp [chain_ofFailure]
  · simp [chain_ofFailure, failure.messages_eq]
  · simp [chain_ofFailure]
  · simp [chain_ofFailure, List.eq_replicate_iff]

end Throwable

/-! ## Lines -/

/-- What is shown of a link. -/
structure LinkLines where
  heading : String
  frames : List String
  /-- The number of frames that are left out, if that is said. -/
  omitted : Option Nat

namespace LinkLines

/-- The line that says how many frames are left out. -/
def omittedLine (count : Nat) : String :=
  "\t... " ++ toString count ++ " common frames omitted"

/-- All lines, one after the other. -/
def toList (lines : LinkLines) : List String :=
  lines.heading :: lines.frames.map ("\tat " ++ ·) ++ lines.omitted.toList.map omittedLine

/-- The text of lines. -/
def text (lines : LinkLines) : String :=
  String.join (lines.toList.map (· ++ "\n"))

/-- Lines show a link at a place of a chain with so many frames at most. -/
structure Shows
    (depth place : Nat)
    (link : ThrowableLink)
    (lines : LinkLines) : Prop where
  heading :
    lines.heading =
      if place = 0 then Throwable.headline link
      else "Caused by: " ++ Throwable.headline link
  frames : lines.frames <+: link.frames
  length_frames : lines.frames.length = min depth link.frames.length
  omitted :
    ∀ count,
      lines.omitted = some count ↔
        depth < link.frames.length ∧ count = link.frames.length - depth

/-- The lines of a link at a place of a chain. -/
def of (depth place : Nat) (link : ThrowableLink) : LinkLines where
  heading := Throwable.opening place ++ Throwable.headline link
  frames := link.frames.take depth
  omitted :=
    if link.frames.length - depth = 0 then none
    else some (link.frames.length - depth)

theorem shows_of (depth place : Nat) (link : ThrowableLink) :
    (of depth place link).Shows depth place link := by
  constructor
  · cases place with
    | zero => exact String.empty_append
    | succ place => rfl
  · exact List.take_prefix depth link.frames
  · exact List.length_take
  · intro count
    by_cases all : link.frames.length - depth = 0
    · simp only [of, if_pos all]
      constructor
      · intro impossible
        cases impossible
      · omega
    · simp only [of, if_neg all, Option.some_inj]
      omega

/-- No other lines show the link. -/
theorem Shows.eq_of
    {depth place : Nat}
    {link : ThrowableLink}
    {lines : LinkLines}
    (shows : lines.Shows depth place link) :
    lines = of depth place link := by
  have same := shows_of depth place link
  have frames : lines.frames = (of depth place link).frames := by
    rw [List.prefix_iff_eq_take.mp shows.frames, shows.length_frames,
      List.prefix_iff_eq_take.mp same.frames, same.length_frames]
  have omitted : lines.omitted = (of depth place link).omitted := by
    apply Option.ext
    intro count
    rw [shows.omitted, same.omitted]
  have heading := shows.heading.trans same.heading.symm
  cases lines
  subst heading frames omitted
  rfl

theorem text_of (depth place : Nat) (link : ThrowableLink) :
    (of depth place link).text =
      Throwable.opening place ++ Throwable.linkText depth link := by
  by_cases all : link.frames.length - depth = 0
  · simp [text, toList, of, Throwable.linkText, Throwable.linkLines, all,
      String.append_assoc]
  · simp [text, toList, of, omittedLine, Throwable.linkText, Throwable.linkLines, all,
      String.append_assoc]

end LinkLines

namespace Throwable

/-- What is written of the throwable of an event with so many frames of each link at most. -/
inductive Written (depth : Nat) : Option Throwable → String → Prop where
  | nothing : Written depth none ""
  | links
      {throwable : Throwable}
      {shown : List LinkLines}
      (length : shown.length = throwable.chain.length)
      (shows :
        ∀ (place : Nat) (link : ThrowableLink) (lines : LinkLines),
          throwable.chain[place]? = some link →
            shown[place]? = some lines → lines.Shows depth place link) :
      Written depth (some throwable) (String.join (shown.map LinkLines.text))

theorem render_eq (depth : Nat) (throwable : Throwable) :
    throwable.render depth =
      String.join
        ((throwable.chain.mapIdx (LinkLines.of depth)).map LinkLines.text) := by
  apply congrArg String.join
  apply List.ext_getElem?
  intro place
  simp [Function.comp_def, LinkLines.text_of]

/-- Link by link there is one way to show a chain. -/
theorem shown_eq
    {depth : Nat}
    {chain : List ThrowableLink}
    {shown : List LinkLines}
    (length : shown.length = chain.length)
    (shows :
      ∀ (place : Nat) (link : ThrowableLink) (lines : LinkLines),
        chain[place]? = some link →
          shown[place]? = some lines → lines.Shows depth place link) :
    shown = chain.mapIdx (LinkLines.of depth) := by
  apply List.ext_getElem?
  intro place
  rw [List.getElem?_mapIdx]
  cases found : chain[place]? with
  | none =>
      rw [List.getElem?_eq_none_iff] at found
      rw [List.getElem?_eq_none (length ▸ found)]
      rfl
  | some link =>
      have inside := (List.getElem?_eq_some_iff.mp found).1
      have isLines := List.getElem?_eq_getElem (length ▸ inside)
      rw [isLines, (shows place link _ found isLines).eq_of]
      rfl

/-- The converter writes the throwable of an event and nothing else. -/
theorem render_throwableConverter_iff
    (depth : Nat)
    (scene : Pattern.Scene)
    (event : Event)
    (text : String) :
    (Pattern.throwableConverter depth).render scene event = .ok text ↔
      Written depth event.throwable text := by
  have rendered :
      (Pattern.throwableConverter depth).render scene event =
        .ok ((event.throwable.map (render depth)).getD "") :=
    rfl
  rw [rendered, Except.ok.injEq]
  generalize event.throwable = throwable?
  constructor
  · rintro rfl
    cases throwable? with
    | none => exact .nothing
    | some throwable =>
        rw [Option.map_some, Option.getD_some, render_eq]
        apply Written.links
        · exact List.length_mapIdx
        · intro place link lines found isLines
          rw [List.getElem?_mapIdx, found] at isLines
          cases isLines
          exact LinkLines.shows_of depth place link
  · intro written
    cases written with
    | nothing => rfl
    | links length shows =>
        rw [Option.map_some, Option.getD_some, render_eq, shown_eq length shows]

/-- How an error and those that it comes from are written, whatever the number of frames. -/
theorem render_ofFailure (depth : Nat) (className : String) (failure : Failure) :
    (ofFailure className failure).render depth =
      headline ⟨className, failure.message, []⟩ ++ "\n" ++
        String.join
          (failure.sources.map fun source => "Caused by: " ++ source.message ++ "\n") := by
  have bare (className message : String) :
      linkText depth ⟨className, message, []⟩ =
        headline ⟨className, message, []⟩ ++ "\n" := by
    simp [linkText, linkLines]
  have classless (message : String) : headline ⟨"", message, []⟩ = message :=
    rfl
  have causes :
      ((failure.sources.map fun source =>
            (⟨"", source.message, []⟩ : ThrowableLink)).mapIdx
          fun place link => opening (place + 1) ++ linkText depth link) =
        failure.sources.map fun source => "Caused by: " ++ source.message ++ "\n" := by
    apply List.ext_getElem?
    intro place
    simp [Function.comp_def, opening, bare, classless, String.append_assoc]
  rw [render, chain_ofFailure, List.mapIdx_cons, String.join_cons, bare, causes]
  exact congrArg (· ++ _) String.empty_append

/--
An error and all that it comes from are captured in their order, and what is
written of an event shows its throwable link by link in the order of the chain.
-/
theorem captured_and_written
    (className : String)
    (failure : Failure)
    (depth : Nat)
    (scene : Pattern.Scene)
    (event : Event)
    (text : String) :
    (ofFailure className failure).Captures className failure ∧
      ((Pattern.throwableConverter depth).render scene event = .ok text ↔
        Written depth event.throwable text) ∧
      (ofFailure className failure).render depth =
        headline ⟨className, failure.message, []⟩ ++ "\n" ++
          String.join
            (failure.sources.map fun source =>
              "Caused by: " ++ source.message ++ "\n") :=
  ⟨captures_ofFailure className failure,
    render_throwableConverter_iff depth scene event text,
    render_ofFailure depth className failure⟩

/-- Of two frames one is shown, and the cause has none. -/
example :
    (causedBy ⟨"ClientError", "request failed", ["send", "run"]⟩
        (.root ⟨"", "connection refused", []⟩)).render 1 =
      "ClientError: request failed\n\tat send\n\t... 1 common frames omitted\n" ++
        "Caused by: connection refused\n" := by
  decide +kernel

end Throwable

end LogPipeline
