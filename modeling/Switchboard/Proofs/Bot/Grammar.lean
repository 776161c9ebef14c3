import Switchboard.Proofs.Bot.Reception
import Switchboard.Proofs.Message

/-!
# Which texts get as far as the catalogue

The grammar of messages decides which texts ask for a command.  A text that is
not written in it never gets as far as the catalogue: the bot does the same
whatever commands it has.  Every answer that depends on the catalogue is given
to the one word that is written in the text.
-/

namespace Switchboard.World

open Message Text

/-- The same bot with other commands. -/
def supplied (commands : Catalogue Handler) (world : World) : World :=
  { world with commands }

/-- What an answer says about the command that the message asks for. -/
inductive Responds (sought : Option (CatalogueEntry Handler)) : Routed → Prop
    where
  | mute : Responds sought .noShred
  | unknown : sought = none → Responds sought .unknown
  | denied (entry : CatalogueEntry Handler) :
      sought = some entry → Responds sought .adminOnly
  | limited (entry : CatalogueEntry Handler) (remaining : Nat) :
      sought = some entry → Responds sought (.ratelimited remaining)
  | launched (entry : CatalogueEntry Handler) (pid : Pid) :
      sought = some entry → Responds sought (.launched pid)
  | broken (entry : CatalogueEntry Handler) :
      sought = some entry → Responds sought .panicked

section

variable {event : Event} {world : World} {commandPrefix body : String}

theorem dispatch_supplied (event : Event) (commands : Catalogue Handler)
    (world : World) :
    (world.supplied commands).dispatch event =
      ((world.dispatch event).1,
        (world.dispatch event).2.supplied commands) := by
  have wakes : ∀ (ids : List SubscriptionId) (world : World),
      ids.foldl (fun world id => world.wakeWatchers id)
          (world.supplied commands) =
        (ids.foldl (fun world id => world.wakeWatchers id) world).supplied
          commands := by
    intro ids
    induction ids with
    | nil => exact fun _ => rfl
    | cons id rest induction =>
        intro world
        exact induction (world.wakeWatchers id)
  exact congrArg _ (wakes (world.waiter.dispatch event).1
    { world with waiter := (world.waiter.dispatch event).2 })

theorem receive_of_unread
    (parsed : parse? world.config.commands.commandPrefix event.bodyText =
      none) :
    world.receive event =
      if world.territory.fleet.isOwner event.shred event.room then
        (.ignored, world.offered event)
      else (.notOwner, world) := by
  obtain ⟨agenda, waiter, heard, _⟩ := dispatch_rest event world
  have config : (world.dispatch event).2.config = world.config := by
    rw [heard]
  have ignored : (world.dispatch event).2.route event =
      (.ignored, world.offered event) := by
    unfold route
    rw [config, parsed]
    rfl
  unfold receive
  cases world.territory.fleet.isOwner event.shred event.room with
  | false => rfl
  | true =>
      cases event.kind with
      | message => exact ignored
      | _ => rfl

theorem receive_supplied
    (parsed : parse? world.config.commands.commandPrefix event.bodyText =
      none) (commands : Catalogue Handler) :
    (world.supplied commands).receive event =
      ((world.receive event).1, (world.receive event).2.supplied commands) := by
  have unread : parse? (world.supplied commands).config.commands.commandPrefix
      event.bodyText = none := parsed
  rw [receive_of_unread parsed, receive_of_unread unread]
  have owner : (world.supplied commands).territory = world.territory := rfl
  have offered : (world.supplied commands).offered event =
      (world.offered event).supplied commands :=
    congrArg Prod.snd (dispatch_supplied event commands world)
  rw [owner, offered]
  split <;> rfl

theorem receive_responds {word arguments : String}
    (parsed : parse? world.config.commands.commandPrefix event.bodyText =
      some (word, arguments))
    (heeded : (world.receive event).1 ≠ .notOwner)
    (answered : (world.receive event).1 ≠ .ignored) :
    Responds (world.commands.find? word) (world.receive event).1 := by
  have same : ∀ {other given : String} {chat : Chat},
      Addressed event other given chat world → other = word := by
    intro other given chat addressed
    cases addressed.parsed.symm.trans parsed
    rfl
  have sought : ∀ {entry : CatalogueEntry Handler},
      Reaches event entry world →
        world.commands.find? word = some entry := by
    intro entry reaches
    obtain ⟨known, _, alike, found⟩ := reaches.command
    cases alike.symm.trans parsed
    exact found
  have reception := receive_reception event world
  generalize world.receive event = result at reception heeded answered
  cases reception with
  | foreign => exact absurd rfl heeded
  | heard => exact absurd rfl answered
  | mute => exact .mute
  | unknown addressed missing => exact .unknown (same addressed ▸ missing)
  | denied addressed found => exact .denied _ (same addressed ▸ found)
  | limited _ reaches => exact .limited _ _ (sought reaches)
  | free _ reaches => exact .launched _ _ (sought reaches)
  | counted _ reaches => exact .launched _ _ (sought reaches)
  | broken _ reaches => exact .broken _ (sought reaches)

/-- A message is read just if it consists, between blanks, of the prefix, a
word, and a tail that is empty or starts with a blank, and it is read as the
word and the arguments, which are the tail without the blanks around it.  It
can be taken apart in one way only, so that neither the blanks around it nor
the number of those behind the word make a difference.  Whatever is not such a
message has the same effect whatever commands there are, and every answer but
those that ignore the message is about the command that its word asks for. -/
theorem message_grammar (commandPrefix body : String) :
    (∀ word arguments, parse? commandPrefix body = some (word, arguments) ↔
      Written commandPrefix body word arguments) ∧
    (∀ text word tail arguments text' word' tail' arguments',
      Reading commandPrefix.toList body.toList text word tail arguments →
      Reading commandPrefix.toList body.toList text' word' tail' arguments' →
      text = text' ∧ word = word' ∧ tail = tail' ∧ arguments = arguments') ∧
    (∀ front back : String, Blanks front.toList → Blanks back.toList →
      parse? commandPrefix (front ++ body ++ back) =
        parse? commandPrefix body) ∧
    (∀ word gap other : String, IsWord word.toList →
      Blanks gap.toList → gap ≠ "" → Blanks other.toList → other ≠ "" →
      parse? commandPrefix (commandPrefix ++ word ++ (gap ++ body)) =
        parse? commandPrefix (commandPrefix ++ word ++ (other ++ body))) ∧
    ∀ (world : World) (event : Event),
      world.config.commands.commandPrefix = commandPrefix →
      event.bodyText = body →
      ((∀ word arguments, ¬Written commandPrefix body word arguments) →
        ((world.receive event).1 = .notOwner ∨
          (world.receive event).1 = .ignored) ∧
        ∀ commands, (world.supplied commands).receive event =
          ((world.receive event).1,
            (world.receive event).2.supplied commands)) ∧
      ((world.receive event).1 ≠ .notOwner →
        (world.receive event).1 ≠ .ignored →
        ∃ word arguments, Written commandPrefix body word arguments ∧
          Responds (world.commands.find? word) (world.receive event).1) := by
  refine ⟨fun word arguments => parse?_eq_some_iff_written, ?_,
    fun front back before behind => parse?_surround body before behind,
    fun word gap other isWord blanks nonempty others otherNonempty =>
      parse?_gap isWord body blanks nonempty others otherNonempty, ?_⟩
  · intro text word tail arguments text' word' tail' arguments' one two
    exact one.unique two
  · rintro world event rfl rfl
    have ignored : parse? world.config.commands.commandPrefix event.bodyText =
        none → (world.receive event).1 = .notOwner ∨
          (world.receive event).1 = .ignored := by
      intro parsed
      rw [receive_of_unread parsed]
      split
      · exact .inr rfl
      · exact .inl rfl
    refine ⟨fun unwritten => ?_, fun heeded answered => ?_⟩
    · have parsed := parse?_eq_none_of_unwritten unwritten
      exact ⟨ignored parsed, receive_supplied parsed⟩
    · cases parsed : parse? world.config.commands.commandPrefix
          event.bodyText with
      | none => exact absurd (ignored parsed) (by simp [heeded, answered])
      | some pair =>
          exact ⟨_, _, parse?_eq_some_iff_written.mp parsed,
            receive_responds parsed heeded answered⟩

/-- Wide blanks around a message are no part of it, and neither is one that
takes more than a byte part of its word.  The prefix alone is no message: its
last blank is cut off. -/
theorem message_grammar_wide :
    Written "bot, " "\u3000bot, hi\u00a0 there\u2028" "hi" "there" ∧
      ∀ (world : World) (event : Event),
        world.config.commands.commandPrefix = "bot, " →
        event.bodyText = "bot, " →
        (world.receive event).1 = .notOwner ∨
          (world.receive event).1 = .ignored := by
  obtain ⟨read, _⟩ :=
    message_grammar "bot, " "\u3000bot, hi\u00a0 there\u2028"
  obtain ⟨bare, _, _, _, received⟩ := message_grammar "bot, " "bot, "
  refine ⟨(read "hi" "there").mp (by decide +kernel), ?_⟩
  intro world event start text
  refine ((received world event start text).1 fun word arguments => ?_).1
  rw [← bare, show parse? "bot, " "bot, " = none by decide +kernel]
  exact nofun

end

end Switchboard.World
