import DexDiscovery.Text.Words

/-!
# Shortcodes

A picture may be written by its name between colons, as in `:rocket:`.  Names are looked up in small
letters; one that is unknown stands as it is.  Behind the name, `-text` and `-emoji` ask for the
plain and for the coloured form.
-/

namespace DexDiscovery

namespace Shortcode

/-- The pictures by their names. -/
def pictures : List (String × String) := [
  ("+1", "👍"), ("-1", "👎"), ("100", "💯"), ("1234", "🔢"), ("8ball", "🎱"), ("a", "🅰"),
  ("ab", "🆎"), ("abc", "🔤"), ("abcd", "🔡"), ("airplane", "✈"), ("alarm_clock", "⏰"),
  ("alien", "👽"), ("ambulance", "🚑"), ("anchor", "⚓"), ("angel", "👼"), ("angry", "😠"),
  ("ant", "🐜"), ("apple", "🍎"), ("arrow_down", "⬇"), ("arrow_left", "⬅"), ("arrow_right", "➡"),
  ("arrow_up", "⬆"), ("art", "🎨"), ("b", "🅱"), ("baby", "👶"), ("balloon", "🎈"), ("banana", "🍌"),
  ("bar_chart", "📊"), ("battery", "🔋"), ("bee", "🐝"), ("beer", "🍺"), ("beetle", "🐞"),
  ("bell", "🔔"), ("bike", "🚲"), ("bird", "🐦"), ("birthday", "🎂"), ("black_circle", "⚫"),
  ("blush", "😊"), ("bomb", "💣"), ("book", "📖"), ("bookmark", "🔖"), ("books", "📚"),
  ("boom", "💥"), ("bow", "🙇"), ("boy", "👦"), ("brain", "🧠"), ("bread", "🍞"),
  ("broken_heart", "💔"), ("bug", "🐛"), ("bulb", "💡"), ("bus", "🚌"), ("butterfly", "🦋"),
  ("cactus", "🌵"), ("cake", "🍰"), ("calendar", "📆"), ("camera", "📷"), ("candle", "🕯"),
  ("cat", "🐱"), ("cd", "💿"), ("check_mark", "✔"), ("check_mark_button", "✅"),
  ("checkered_flag", "🏁"), ("cheese_wedge", "🧀"), ("cherries", "🍒"), ("chicken", "🐔"),
  ("cinema", "🎦"), ("cl", "🆑"), ("clap", "👏"), ("clapping_hands", "👏"), ("clipboard", "📋"),
  ("cloud", "☁"), ("coffee", "☕"), ("collision", "💥"), ("computer", "💻"), ("construction", "🚧"),
  ("cool", "🆒"), ("copyright", "©"), ("corn", "🌽"), ("cow", "🐮"), ("crab", "🦀"),
  ("cross_mark", "❌"), ("crossed_fingers", "🤞"), ("crown", "👑"), ("cry", "😢"),
  ("crying_face", "😢"), ("custard", "🍮"), ("dash", "💨"), ("date", "📅"), ("deer", "🦌"),
  ("diamonds", "♦"), ("dizzy", "💫"), ("dog", "🐶"), ("dolphin", "🐬"), ("door", "🚪"),
  ("dragon", "🐉"), ("droplet", "💧"), ("duck", "🦆"), ("eagle", "🦅"), ("ear", "👂"),
  ("earth_africa", "🌍"), ("earth_americas", "🌎"), ("egg", "🥚"), ("eggplant", "🍆"),
  ("elephant", "🐘"), ("email", "✉"), ("envelope", "✉"), ("evergreen_tree", "🌲"),
  ("exclamation", "❗"), ("exclamation_mark", "❗"), ("eyes", "👀"),
  ("face_with_tears_of_joy", "😂"), ("fax", "📠"), ("file_folder", "📁"), ("fire", "🔥"),
  ("fish", "🐟"), ("flashlight", "🔦"), ("floppy_disk", "💾"), ("flushed", "😳"),
  ("folded_hands", "🙏"), ("four_leaf_clover", "🍀"), ("fox_face", "🦊"), ("free", "🆓"),
  ("fries", "🍟"), ("frog", "🐸"), ("full_moon", "🌕"), ("game_die", "🎲"), ("gear", "⚙"),
  ("gem", "💎"), ("ghost", "👻"), ("gift", "🎁"), ("girl", "👧"), ("globe_with_meridians", "🌐"),
  ("glowing_star", "🌟"), ("grapes", "🍇"), ("green_circle", "🟢"), ("green_heart", "💚"),
  ("grin", "😁"), ("grinning", "😀"), ("grinning_face", "😀"), ("guitar", "🎸"), ("gun", "🔫"),
  ("hamburger", "🍔"), ("hammer", "🔨"), ("hamster", "🐹"), ("hash", "#"), ("heart", "❤"),
  ("heart_eyes", "😍"), ("hearts", "♥"), ("heavy_check_mark", "✔"), ("hedgehog", "🦔"),
  ("herb", "🌿"), ("high_voltage", "⚡"), ("honeybee", "🐝"), ("horse", "🐴"), ("hospital", "🏥"),
  ("hot_beverage", "☕"), ("hourglass", "⌛"), ("house", "🏠"), ("hundred_points", "💯"),
  ("icecream", "🍦"), ("id", "🆔"), ("inbox_tray", "📥"), ("information_source", "ℹ"),
  ("iphone", "📱"), ("jack_o_lantern", "🎃"), ("joy", "😂"), ("key", "🔑"), ("kiss", "💋"),
  ("koala", "🐨"), ("label", "🏷"), ("lady_beetle", "🐞"), ("large_blue_circle", "🔵"),
  ("laughing", "😆"), ("lemon", "🍋"), ("light_bulb", "💡"), ("link", "🔗"), ("lock", "🔒"),
  ("lollipop", "🍭"), ("loudly_crying_face", "😭"), ("loudspeaker", "📢"), ("m", "Ⓜ"),
  ("mag", "🔍"), ("man", "👨"), ("maple_leaf", "🍁"), ("memo", "📝"), ("microphone", "🎤"),
  ("microscope", "🔬"), ("money_bag", "💰"), ("moneybag", "💰"), ("monkey", "🐒"), ("moon", "🌔"),
  ("mouse", "🐭"), ("muscle", "💪"), ("mushroom", "🍄"), ("new", "🆕"), ("ng", "🆖"),
  ("no_entry", "⛔"), ("no_entry_sign", "🚫"), ("nose", "👃"), ("o", "⭕"), ("o2", "🅾"),
  ("ocean", "🌊"), ("octopus", "🐙"), ("office", "🏢"), ("ok", "🆗"), ("ok_hand", "👌"), ("on", "🔛"),
  ("open_file_folder", "📂"), ("orange_book", "📙"), ("owl", "🦉"), ("package", "📦"),
  ("page_facing_up", "📄"), ("panda_face", "🐼"), ("paperclip", "📎"), ("parking", "🅿"),
  ("party_popper", "🎉"), ("peach", "🍑"), ("pear", "🍐"), ("pencil", "📝"), ("penguin", "🐧"),
  ("phone", "☎"), ("pig", "🐷"), ("pile_of_poo", "💩"), ("pill", "💊"), ("pineapple", "🍍"),
  ("pizza", "🍕"), ("point_right", "👉"), ("poop", "💩"), ("popcorn", "🍿"), ("potato", "🥔"),
  ("pray", "🙏"), ("prohibited", "🚫"), ("pushpin", "📌"), ("question", "❓"),
  ("question_mark", "❓"), ("rabbit", "🐰"), ("raccoon", "🦝"), ("radio", "📻"), ("rainbow", "🌈"),
  ("raised_hand", "✋"), ("ramen", "🍜"), ("recycle", "♻"), ("red_circle", "🔴"),
  ("red_heart", "❤"), ("registered", "®"), ("ribbon", "🎀"), ("robot", "🤖"), ("rocket", "🚀"),
  ("rose", "🌹"), ("rotating_light", "🚨"), ("sa", "🈂"), ("scissors", "✂"), ("scream", "😱"),
  ("seedling", "🌱"), ("sheep", "🐑"), ("shield", "🛡"), ("ship", "🚢"), ("skull", "💀"),
  ("smile", "😄"), ("smiley", "😃"), ("smirk", "😏"), ("snail", "🐌"), ("snake", "🐍"),
  ("snowflake", "❄"), ("snowman", "⛄"), ("sob", "😭"), ("soon", "🔜"), ("sos", "🆘"),
  ("spades", "♠"), ("sparkle", "❇"), ("sparkles", "✨"), ("spider", "🕷"), ("star", "⭐"),
  ("star2", "🌟"), ("stop_sign", "🛑"), ("stopwatch", "⏱"), ("strawberry", "🍓"), ("sun", "☀"),
  ("sunflower", "🌻"), ("sunglasses", "😎"), ("sunny", "☀"), ("sushi", "🍣"), ("tada", "🎉"),
  ("taxi", "🚕"), ("telephone", "☎"), ("telescope", "🔭"), ("tent", "⛺"), ("thinking", "🤔"),
  ("thinking_face", "🤔"), ("thought_balloon", "💭"), ("thumbs_down", "👎"), ("thumbs_up", "👍"),
  ("thumbsdown", "👎"), ("thumbsup", "👍"), ("tiger", "🐯"), ("tm", "™"), ("tomato", "🍅"),
  ("tools", "🛠"), ("top", "🔝"), ("train", "🚆"), ("tree", "🌳"), ("trophy", "🏆"), ("tulip", "🌷"),
  ("turtle", "🐢"), ("tv", "📺"), ("umbrella", "☔"), ("unlock", "🔓"), ("up", "🆙"), ("us", "🇺🇸"),
  ("v", "✌"), ("vampire", "🧛"), ("violin", "🎻"), ("volcano", "🌋"), ("vs", "🆚"),
  ("warning", "⚠"), ("watch", "⌚"), ("watermelon", "🍉"), ("wave", "👋"), ("waving_hand", "👋"),
  ("wc", "🚾"), ("whale", "🐳"), ("white_check_mark", "✅"), ("white_circle", "⚪"), ("wind", "🌬"),
  ("wine_glass", "🍷"), ("wink", "😉"), ("winking_face", "😉"), ("wolf", "🐺"), ("woman", "👩"),
  ("world_map", "🗺"), ("wrapped_gift", "🎁"), ("wrench", "🔧"), ("x", "❌"), ("yum", "😋"),
  ("zap", "⚡"), ("zebra", "🦓"), ("zzz", "💤")]

/-- A name in two parts: the name itself, and the selector of the form that it asks for. -/
def nameAndForm (name : Text) : Text × Text :=
  let plain : Text := "-text"
  let coloured : Text := "-emoji"
  if plain.isSuffixOf name then (name.take (name.length - plain.length), [0xFE0E])
  else if coloured.isSuffixOf name then (name.take (name.length - coloured.length), [0xFE0F])
  else (name, [])

/-- The picture of a name, in the form that it asks for. -/
def picture? (name : Text) : Option Text :=
  let (name, form) := nameAndForm name
  let key := name.map CodePoint.small
  (pictures.find? fun (known, _) => key == Text.ofString known).map fun (_, picture) =>
    Text.ofString picture ++ form

/-- A text with pictures in place of their names; `fuel` bounds the number of colons. -/
def replaceWithin : (fuel : Nat) → Text → Text
  | 0, t => t
  | fuel + 1, t =>
    let before := t.takeWhile (· ≠ .colon)
    match t.drop before.length with
    | [] => before
    | _ :: rest =>
      let name := rest.takeWhile fun c => c ≠ .colon ∧ ¬ c.isSpace
      match rest.drop name.length with
      | .colon :: after =>
        before ++ (picture? name).getD (.colon :: name ++ [.colon]) ++ replaceWithin fuel after
      | other => before ++ .colon :: name ++ replaceWithin fuel other

/-- A text with pictures in place of their names. -/
def replace (t : Text) : Text :=
  replaceWithin (t.length + 1) t

end Shortcode

end DexDiscovery
