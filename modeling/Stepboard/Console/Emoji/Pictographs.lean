/-!
# Names of pictographs

Weather, plants, food, animals and things, each with its names.
-/

namespace Stepboard.Console.Emoji

/-- Weather, plants, food and festivities. -/
def nature : List (String × List String) :=
  [("🌀", ["cyclone"]), ("🌁", ["foggy"]), ("🌂", ["closed_umbrella"]), ("🌃", ["night_with_stars"]),
   ("🌄", ["sunrise_over_mountains"]), ("🌅", ["sunrise"]),
   ("🌆", ["cityscape_at_dusk", "city_sunset"]), ("🌇", ["sunset", "city_sunrise"]),
   ("🌈", ["rainbow"]), ("🌉", ["bridge_at_night"]), ("🌊", ["water_wave", "ocean"]),
   ("🌋", ["volcano"]), ("🌌", ["milky_way"]),
   ("🌍", ["globe_showing_europe-africa", "earth_africa"]),
   ("🌎", ["globe_showing_americas", "earth_americas"]),
   ("🌏", ["globe_showing_asia-australia", "earth_asia"]), ("🌐", ["globe_with_meridians"]),
   ("🌑", ["new_moon"]), ("🌒", ["waxing_crescent_moon"]), ("🌓", ["first_quarter_moon"]),
   ("🌔", ["waxing_gibbous_moon", "moon"]), ("🌕", ["full_moon"]), ("🌖", ["waning_gibbous_moon"]),
   ("🌗", ["last_quarter_moon"]), ("🌘", ["waning_crescent_moon"]), ("🌙", ["crescent_moon"]),
   ("🌚", ["new_moon_face", "new_moon_with_face"]),
   ("🌛", ["first_quarter_moon_face", "first_quarter_moon_with_face"]),
   ("🌜", ["last_quarter_moon_face", "last_quarter_moon_with_face"]),
   ("🌝", ["full_moon_face", "full_moon_with_face"]), ("🌞", ["sun_with_face"]),
   ("🌟", ["glowing_star", "star2"]), ("🌠", ["shooting_star", "stars"]), ("🌡", ["thermometer"]),
   ("🌤", ["sun_behind_small_cloud", "white_sun_with_small_cloud"]),
   ("🌥", ["sun_behind_large_cloud", "white_sun_behind_cloud"]),
   ("🌦", ["sun_behind_rain_cloud", "white_sun_behind_cloud_with_rain"]),
   ("🌧", ["cloud_with_rain"]), ("🌨", ["cloud_with_snow"]), ("🌩", ["cloud_with_lightning"]),
   ("🌪", ["tornado", "cloud_with_tornado"]), ("🌫", ["fog"]),
   ("🌬", ["wind_face", "wind_blowing_face"]), ("🌭", ["hot_dog"]), ("🌮", ["taco"]),
   ("🌯", ["burrito"]), ("🌰", ["chestnut"]), ("🌱", ["seedling"]), ("🌲", ["evergreen_tree"]),
   ("🌳", ["deciduous_tree"]), ("🌴", ["palm_tree"]), ("🌵", ["cactus"]), ("🌶", ["hot_pepper"]),
   ("🌷", ["tulip"]), ("🌸", ["cherry_blossom"]), ("🌹", ["rose"]), ("🌺", ["hibiscus"]),
   ("🌻", ["sunflower"]), ("🌼", ["blossom"]), ("🌽", ["ear_of_corn", "corn"]),
   ("🌾", ["sheaf_of_rice", "ear_of_rice"]), ("🌿", ["herb"]), ("🍀", ["four_leaf_clover"]),
   ("🍁", ["maple_leaf"]), ("🍂", ["fallen_leaf"]), ("🍃", ["leaf_fluttering_in_wind", "leaves"]),
   ("🍄", ["mushroom"]), ("🍅", ["tomato"]), ("🍆", ["eggplant"]), ("🍇", ["grapes"]),
   ("🍈", ["melon"]), ("🍉", ["watermelon"]), ("🍊", ["tangerine"]), ("🍋", ["lemon"]),
   ("🍌", ["banana"]), ("🍍", ["pineapple"]), ("🍎", ["red_apple", "apple"]), ("🍏", ["green_apple"]),
   ("🍐", ["pear"]), ("🍑", ["peach"]), ("🍒", ["cherries"]), ("🍓", ["strawberry"]),
   ("🍔", ["hamburger"]), ("🍕", ["pizza"]), ("🍖", ["meat_on_bone"]), ("🍗", ["poultry_leg"]),
   ("🍘", ["rice_cracker"]), ("🍙", ["rice_ball"]), ("🍚", ["cooked_rice", "rice"]),
   ("🍛", ["curry_rice", "curry"]), ("🍜", ["steaming_bowl", "ramen"]), ("🍝", ["spaghetti"]),
   ("🍞", ["bread"]), ("🍟", ["french_fries", "fries"]),
   ("🍠", ["roasted_sweet_potato", "sweet_potato"]), ("🍡", ["dango"]), ("🍢", ["oden"]),
   ("🍣", ["sushi"]), ("🍤", ["fried_shrimp"]), ("🍥", ["fish_cake_with_swirl", "fish_cake"]),
   ("🍦", ["soft_ice_cream", "icecream"]), ("🍧", ["shaved_ice"]), ("🍨", ["ice_cream"]),
   ("🍩", ["doughnut"]), ("🍪", ["cookie"]), ("🍫", ["chocolate_bar"]), ("🍬", ["candy"]),
   ("🍭", ["lollipop"]), ("🍮", ["custard"]), ("🍯", ["honey_pot"]), ("🍰", ["shortcake", "cake"]),
   ("🍱", ["bento_box", "bento"]), ("🍲", ["pot_of_food", "stew"]), ("🍳", ["cooking", "egg"]),
   ("🍴", ["fork_and_knife"]), ("🍵", ["teacup_without_handle", "tea"]), ("🍶", ["sake"]),
   ("🍷", ["wine_glass"]), ("🍸", ["cocktail_glass", "cocktail"]), ("🍹", ["tropical_drink"]),
   ("🍺", ["beer_mug", "beer"]), ("🍻", ["clinking_beer_mugs", "beers"]), ("🍼", ["baby_bottle"]),
   ("🍽", ["fork_and_knife_with_plate"]), ("🍾", ["bottle_with_popping_cork"]), ("🍿", ["popcorn"]),
   ("🎀", ["ribbon"]), ("🎁", ["wrapped_gift", "gift"]), ("🎂", ["birthday_cake", "birthday"]),
   ("🎃", ["jack-o-lantern", "jack_o_lantern"]), ("🎄", ["christmas_tree"]), ("🎅", ["santa"]),
   ("🎆", ["fireworks"]), ("🎇", ["sparkler"]), ("🎈", ["balloon"]), ("🎉", ["party_popper", "tada"]),
   ("🎊", ["confetti_ball"]), ("🎋", ["tanabata_tree"]), ("🎌", ["crossed_flags"]),
   ("🎍", ["pine_decoration", "bamboo"]), ("🎎", ["japanese_dolls", "dolls"]),
   ("🎏", ["carp_streamer", "flags"]), ("🎐", ["wind_chime"]),
   ("🎑", ["moon_viewing_ceremony", "rice_scene"]), ("🎒", ["school_backpack", "school_satchel"]),
   ("🎓", ["graduation_cap", "mortar_board"]), ("🎖", ["military_medal"]),
   ("🎗", ["reminder_ribbon"]), ("🎙", ["studio_microphone"]), ("🎚", ["level_slider"]),
   ("🎛", ["control_knobs"]), ("🎞", ["film_frames"]), ("🎟", ["admission_tickets"]),
   ("🎠", ["carousel_horse"]), ("🎡", ["ferris_wheel"]), ("🎢", ["roller_coaster"]),
   ("🎣", ["fishing_pole", "fishing_pole_and_fish"]), ("🎤", ["microphone"]),
   ("🎥", ["movie_camera"]), ("🎦", ["cinema"]), ("🎧", ["headphone", "headphones"]),
   ("🎨", ["artist_palette", "art"]), ("🎩", ["top_hat", "tophat"]), ("🎪", ["circus_tent"]),
   ("🎫", ["ticket"]), ("🎬", ["clapper_board", "clapper"]), ("🎭", ["performing_arts"]),
   ("🎮", ["video_game"]), ("🎯", ["direct_hit", "dart"]), ("🎰", ["slot_machine"]),
   ("🎱", ["pool_8_ball", "8ball"]), ("🎲", ["game_die"]), ("🎳", ["bowling"]),
   ("🎴", ["flower_playing_cards"]), ("🎵", ["musical_note"]), ("🎶", ["musical_notes", "notes"]),
   ("🎷", ["saxophone"]), ("🎸", ["guitar"]), ("🎹", ["musical_keyboard"]), ("🎺", ["trumpet"]),
   ("🎻", ["violin"]), ("🎼", ["musical_score"]),
   ("🎽", ["running_shirt", "running_shirt_with_sash"]), ("🎾", ["tennis"]), ("🎿", ["skis", "ski"]),
   ("🏀", ["basketball"]), ("🏁", ["chequered_flag", "checkered_flag"]),
   ("🏃", ["runner", "running"]), ("🏄", ["surfer"]), ("🏅", ["sports_medal"]), ("🏆", ["trophy"]),
   ("🏈", ["american_football", "football"]), ("🏉", ["rugby_football"]), ("🏊", ["swimmer"]),
   ("🏋", ["weight_lifter"]), ("🏌", ["golfer"]), ("🏍", ["motorcycle", "racing_motorcycle"]),
   ("🏎", ["racing_car"]), ("🏏", ["cricket_game", "cricket_bat_and_ball"]), ("🏐", ["volleyball"]),
   ("🏑", ["field_hockey", "field_hockey_stick_and_ball"]),
   ("🏒", ["ice_hockey", "ice_hockey_stick_and_puck"]),
   ("🏓", ["ping_pong", "table_tennis_paddle_and_ball"]),
   ("🏔", ["snow-capped_mountain", "snow_capped_mountain"]), ("🏕", ["camping"]),
   ("🏖", ["beach_with_umbrella"]), ("🏗", ["building_construction"]),
   ("🏘", ["houses", "house_buildings"]), ("🏙", ["cityscape"]),
   ("🏚", ["derelict_house", "derelict_house_building"]), ("🏛", ["classical_building"]),
   ("🏜", ["desert"]), ("🏝", ["desert_island"]), ("🏞", ["national_park"]), ("🏟", ["stadium"]),
   ("🏠", ["house"]), ("🏡", ["house_with_garden"]), ("🏢", ["office_building", "office"]),
   ("🏣", ["japanese_post_office", "post_office"]), ("🏤", ["european_post_office"]),
   ("🏥", ["hospital"]), ("🏦", ["bank"]), ("🏧", ["atm_sign", "atm"]), ("🏨", ["hotel"]),
   ("🏩", ["love_hotel"]), ("🏪", ["convenience_store"]), ("🏫", ["school"]),
   ("🏬", ["department_store"]), ("🏭", ["factory"]),
   ("🏮", ["red_paper_lantern", "izakaya_lantern", "lantern"]), ("🏯", ["japanese_castle"]),
   ("🏰", ["castle", "european_castle"]), ("🏳", ["white_flag", "waving_white_flag"]),
   ("🏴", ["black_flag", "waving_black_flag"]), ("🏴󠁧󠁢󠁥󠁮󠁧󠁿", ["england"]), ("🏴󠁧󠁢󠁳󠁣󠁴󠁿", ["scotland"]),
   ("🏴󠁧󠁢󠁷󠁬󠁳󠁿", ["wales"]), ("🏵", ["rosette"]), ("🏷", ["label"]),
   ("🏸", ["badminton", "badminton_racquet_and_shuttlecock"]), ("🏹", ["bow_and_arrow"]),
   ("🏺", ["amphora"]), ("🏻", ["light_skin_tone", "emoji_modifier_fitzpatrick_type__1__2"]),
   ("🏼", ["medium_light_skin_tone", "emoji_modifier_fitzpatrick_type__3"]),
   ("🏽", ["medium_skin_tone", "emoji_modifier_fitzpatrick_type__4"]),
   ("🏾", ["medium_dark_skin_tone", "emoji_modifier_fitzpatrick_type__5"]),
   ("🏿", ["dark_skin_tone", "emoji_modifier_fitzpatrick_type__6"])]

/-- Animals, parts of the body, clothes and writing. -/
def creatures : List (String × List String) :=
  [("🐀", ["rat"]), ("🐁", ["mouse2"]), ("🐂", ["ox"]), ("🐃", ["water_buffalo"]), ("🐄", ["cow2"]),
   ("🐅", ["tiger2"]), ("🐆", ["leopard"]), ("🐇", ["rabbit2"]), ("🐈", ["cat2"]), ("🐉", ["dragon"]),
   ("🐊", ["crocodile"]), ("🐋", ["whale2"]), ("🐌", ["snail"]), ("🐍", ["snake"]),
   ("🐎", ["racehorse"]), ("🐏", ["ram"]), ("🐐", ["goat"]), ("🐑", ["ewe", "sheep"]),
   ("🐒", ["monkey"]), ("🐓", ["rooster"]), ("🐔", ["chicken"]), ("🐕", ["dog2"]), ("🐖", ["pig2"]),
   ("🐗", ["boar"]), ("🐘", ["elephant"]), ("🐙", ["octopus"]), ("🐚", ["spiral_shell", "shell"]),
   ("🐛", ["bug"]), ("🐜", ["ant"]), ("🐝", ["honeybee", "bee"]), ("🐞", ["lady_beetle", "beetle"]),
   ("🐟", ["fish"]), ("🐠", ["tropical_fish"]), ("🐡", ["blowfish"]), ("🐢", ["turtle"]),
   ("🐣", ["hatching_chick"]), ("🐤", ["baby_chick"]),
   ("🐥", ["front-facing_baby_chick", "hatched_chick"]), ("🐦", ["bird"]), ("🐧", ["penguin"]),
   ("🐨", ["koala"]), ("🐩", ["poodle"]), ("🐪", ["dromedary_camel"]),
   ("🐫", ["camel", "two-hump_camel"]), ("🐬", ["dolphin", "flipper"]),
   ("🐭", ["mouse", "mouse_face"]), ("🐮", ["cow", "cow_face"]), ("🐯", ["tiger", "tiger_face"]),
   ("🐰", ["rabbit", "rabbit_face"]), ("🐱", ["cat", "cat_face"]), ("🐲", ["dragon_face"]),
   ("🐳", ["spouting_whale", "whale"]), ("🐴", ["horse", "horse_face"]), ("🐵", ["monkey_face"]),
   ("🐶", ["dog", "dog_face"]), ("🐷", ["pig", "pig_face"]), ("🐸", ["frog_face", "frog"]),
   ("🐹", ["hamster_face", "hamster"]), ("🐺", ["wolf_face", "wolf"]), ("🐻", ["bear_face", "bear"]),
   ("🐼", ["panda_face"]), ("🐽", ["pig_nose"]), ("🐾", ["paw_prints", "feet"]), ("🐿", ["chipmunk"]),
   ("👀", ["eyes"]), ("👁", ["eye"]), ("👄", ["mouth", "lips"]), ("👅", ["tongue"]),
   ("👆", ["point_up_2"]), ("👇", ["point_down"]), ("👈", ["point_left"]), ("👉", ["point_right"]),
   ("👊", ["facepunch", "punch"]), ("👋", ["wave"]), ("👍", ["+1", "thumbsup"]),
   ("👎", ["__1", "-1", "thumbsdown"]), ("👏", ["clap"]), ("👑", ["crown"]),
   ("👒", ["woman’s_hat", "womans_hat"]), ("👓", ["glasses", "eyeglasses"]), ("👔", ["necktie"]),
   ("👕", ["t-shirt", "shirt", "tshirt"]), ("👖", ["jeans"]), ("👗", ["dress"]), ("👘", ["kimono"]),
   ("👙", ["bikini"]), ("👚", ["woman’s_clothes", "womans_clothes"]), ("👛", ["purse"]),
   ("👜", ["handbag"]), ("👝", ["clutch_bag", "pouch"]), ("👞", ["man’s_shoe", "mans_shoe", "shoe"]),
   ("👟", ["running_shoe", "athletic_shoe"]), ("👠", ["high-heeled_shoe", "high_heel"]),
   ("👡", ["woman’s_sandal", "sandal"]), ("👢", ["woman’s_boot", "boot"]), ("👣", ["footprints"]),
   ("👤", ["bust_in_silhouette"]), ("👥", ["busts_in_silhouette"]), ("👪", ["family"]),
   ("👫", ["man_and_woman_holding_hands", "couple"]), ("👬", ["two_men_holding_hands"]),
   ("👭", ["two_women_holding_hands"]), ("👮", ["cop"]),
   ("👯", ["people_with_bunny_ears", "dancers"]), ("👱", ["person_with_blond_hair"]),
   ("👲", ["man_with_gua_pi_mao"]), ("👳", ["man_with_turban"]), ("👴", ["older_man"]),
   ("👵", ["older_woman"]), ("👹", ["ogre", "japanese_ogre"]), ("👺", ["goblin", "japanese_goblin"]),
   ("👻", ["ghost"]), ("👼", ["angel"]), ("👽", ["alien"]), ("👾", ["alien_monster", "space_invader"]),
   ("👿", ["angry_face_with_horns", "imp"]), ("💀", ["skull"]), ("💁", ["information_desk_person"]),
   ("💂", ["guardsman"]), ("💃", ["dancer"]), ("💄", ["lipstick"]), ("💅", ["nail_care"]),
   ("💆", ["massage"]), ("💇", ["haircut"]), ("💈", ["barber_pole", "barber"]), ("💉", ["syringe"]),
   ("💊", ["pill"]), ("💋", ["kiss", "kiss_mark"]), ("💌", ["love_letter"]), ("💍", ["ring"]),
   ("💎", ["gem_stone", "gem"]), ("💏", ["couplekiss"]), ("💐", ["bouquet"]),
   ("💑", ["couple_with_heart"]), ("💒", ["wedding"]), ("💓", ["beating_heart", "heartbeat"]),
   ("💔", ["broken_heart"]), ("💕", ["two_hearts"]), ("💖", ["sparkling_heart"]),
   ("💗", ["growing_heart", "heartpulse"]), ("💘", ["heart_with_arrow", "cupid"]),
   ("💙", ["blue_heart"]), ("💚", ["green_heart"]), ("💛", ["yellow_heart"]), ("💜", ["purple_heart"]),
   ("💝", ["heart_with_ribbon", "gift_heart"]), ("💞", ["revolving_hearts"]),
   ("💟", ["heart_decoration"]), ("💠", ["diamond_with_a_dot", "diamond_shape_with_a_dot_inside"]),
   ("💡", ["light_bulb", "bulb"]), ("💢", ["anger_symbol", "anger"]), ("💣", ["bomb"]),
   ("💤", ["zzz"]), ("💥", ["collision", "boom"]), ("💦", ["sweat_droplets", "sweat_drops"]),
   ("💧", ["droplet"]), ("💨", ["dashing_away", "dash"]),
   ("💩", ["pile_of_poo", "hankey", "poop", "shit"]), ("💪", ["muscle"]), ("💫", ["dizzy"]),
   ("💬", ["speech_balloon"]), ("💭", ["thought_balloon"]), ("💮", ["white_flower"]),
   ("💯", ["hundred_points", "100"])]

/-- Money, offices, machines and signs. -/
def things : List (String × List String) :=
  [("💰", ["money_bag", "moneybag"]), ("💱", ["currency_exchange"]), ("💲", ["heavy_dollar_sign"]),
   ("💳", ["credit_card"]), ("💴", ["yen_banknote", "yen"]), ("💵", ["dollar_banknote", "dollar"]),
   ("💶", ["euro_banknote", "euro"]), ("💷", ["pound_banknote", "pound"]),
   ("💸", ["money_with_wings"]), ("💹", ["chart_increasing_with_yen", "chart"]), ("💺", ["seat"]),
   ("💻", ["laptop_computer", "computer"]), ("💼", ["briefcase"]),
   ("💽", ["computer_disk", "minidisc"]), ("💾", ["floppy_disk"]), ("💿", ["optical_disk", "cd"]),
   ("📀", ["dvd"]), ("📁", ["file_folder"]), ("📂", ["open_file_folder"]), ("📃", ["page_with_curl"]),
   ("📄", ["page_facing_up"]), ("📅", ["date"]), ("📆", ["calendar", "tear-off_calendar"]),
   ("📇", ["card_index"]), ("📈", ["chart_increasing", "chart_with_upwards_trend"]),
   ("📉", ["chart_decreasing", "chart_with_downwards_trend"]), ("📊", ["bar_chart"]),
   ("📋", ["clipboard"]), ("📌", ["pushpin"]), ("📍", ["round_pushpin"]), ("📎", ["paperclip"]),
   ("📏", ["straight_ruler"]), ("📐", ["triangular_ruler"]), ("📑", ["bookmark_tabs"]),
   ("📒", ["ledger"]), ("📓", ["notebook"]), ("📔", ["notebook_with_decorative_cover"]),
   ("📕", ["closed_book"]), ("📖", ["open_book", "book"]), ("📗", ["green_book"]),
   ("📘", ["blue_book"]), ("📙", ["orange_book"]), ("📚", ["books"]), ("📛", ["name_badge"]),
   ("📜", ["scroll"]), ("📝", ["memo", "pencil"]), ("📞", ["telephone_receiver"]), ("📟", ["pager"]),
   ("📠", ["fax_machine", "fax"]), ("📡", ["satellite", "satellite_antenna"]),
   ("📢", ["loudspeaker"]), ("📣", ["megaphone", "mega"]), ("📤", ["outbox_tray"]),
   ("📥", ["inbox_tray"]), ("📦", ["package"]), ("📧", ["e-mail", "e__mail"]),
   ("📨", ["incoming_envelope"]), ("📩", ["envelope_with_arrow"]),
   ("📪", ["closed_mailbox_with_lowered_flag", "mailbox_closed"]),
   ("📫", ["closed_mailbox_with_raised_flag", "mailbox"]),
   ("📬", ["open_mailbox_with_raised_flag", "mailbox_with_mail"]),
   ("📭", ["open_mailbox_with_lowered_flag", "mailbox_with_no_mail"]), ("📮", ["postbox"]),
   ("📯", ["postal_horn"]), ("📰", ["newspaper"]), ("📱", ["mobile_phone", "iphone"]),
   ("📲", ["mobile_phone_with_arrow", "calling"]), ("📳", ["vibration_mode"]),
   ("📴", ["mobile_phone_off"]), ("📵", ["no_mobile_phones"]),
   ("📶", ["antenna_bars", "signal_strength"]), ("📷", ["camera"]), ("📸", ["camera_with_flash"]),
   ("📹", ["video_camera"]), ("📺", ["television", "tv"]), ("📻", ["radio"]),
   ("📼", ["videocassette", "vhs"]), ("📽", ["film_projector"]), ("📿", ["prayer_beads"]),
   ("🔀", ["shuffle_tracks_button", "twisted_rightwards_arrows"]),
   ("🔁", ["repeat_button", "repeat"]), ("🔂", ["repeat_single_button", "repeat_one"]),
   ("🔃", ["clockwise_vertical_arrows", "arrows_clockwise"]),
   ("🔄", ["counterclockwise_arrows_button", "arrows_counterclockwise"]),
   ("🔅", ["dim_button", "low_brightness"]), ("🔆", ["bright_button", "high_brightness"]),
   ("🔇", ["muted_speaker", "mute"]), ("🔈", ["speaker_low_volume", "speaker"]),
   ("🔉", ["speaker_medium_volume", "sound"]), ("🔊", ["speaker_high_volume", "loud_sound"]),
   ("🔋", ["battery"]), ("🔌", ["electric_plug"]), ("🔍", ["magnifying_glass_tilted_left", "mag"]),
   ("🔎", ["magnifying_glass_tilted_right", "mag_right"]),
   ("🔏", ["locked_with_pen", "lock_with_ink_pen"]),
   ("🔐", ["locked_with_key", "closed_lock_with_key"]), ("🔑", ["key"]), ("🔒", ["locked", "lock"]),
   ("🔓", ["unlocked", "unlock"]), ("🔔", ["bell"]), ("🔕", ["bell_with_slash", "no_bell"]),
   ("🔖", ["bookmark"]), ("🔗", ["link"]), ("🔘", ["radio_button"]), ("🔙", ["back_arrow", "back"]),
   ("🔚", ["end_arrow", "end"]), ("🔛", ["on!_arrow", "on"]), ("🔜", ["soon_arrow", "soon"]),
   ("🔝", ["top_arrow", "top"]), ("🔞", ["no_one_under_eighteen", "underage"]),
   ("🔟", ["keycap_10", "ten"]), ("🔠", ["input_latin_uppercase", "capital_abcd"]),
   ("🔡", ["input_latin_lowercase", "abcd"]), ("🔢", ["input_numbers", "1234"]),
   ("🔣", ["input_symbols", "symbols"]), ("🔤", ["input_latin_letters", "abc"]), ("🔥", ["fire"]),
   ("🔦", ["flashlight"]), ("🔧", ["wrench"]), ("🔨", ["hammer"]), ("🔩", ["nut_and_bolt"]),
   ("🔪", ["kitchen_knife", "hocho", "knife"]), ("🔫", ["pistol", "gun"]), ("🔬", ["microscope"]),
   ("🔭", ["telescope"]), ("🔮", ["crystal_ball"]),
   ("🔯", ["dotted_six-pointed_star", "six_pointed_star"])]

/-- Clocks, tools and landmarks. -/
def tools : List (String × List String) :=
  [("🔰", ["japanese_symbol_for_beginner", "beginner"]), ("🔱", ["trident_emblem", "trident"]),
   ("🔲", ["black_square_button"]), ("🔳", ["white_square_button"]), ("🔴", ["red_circle"]),
   ("🔵", ["blue_circle", "large_blue_circle"]), ("🔶", ["large_orange_diamond"]),
   ("🔷", ["large_blue_diamond"]), ("🔸", ["small_orange_diamond"]), ("🔹", ["small_blue_diamond"]),
   ("🔺", ["red_triangle_pointed_up", "small_red_triangle"]),
   ("🔻", ["red_triangle_pointed_down", "small_red_triangle_down"]),
   ("🔼", ["upwards_button", "arrow_up_small"]), ("🔽", ["downwards_button", "arrow_down_small"]),
   ("🕉", ["om", "om_symbol"]), ("🕊", ["dove", "dove_of_peace"]), ("🕋", ["kaaba"]),
   ("🕌", ["mosque"]), ("🕍", ["synagogue"]), ("🕎", ["menorah", "menorah_with_nine_branches"]),
   ("🕐", ["one_o’clock", "clock1"]), ("🕑", ["two_o’clock", "clock2"]),
   ("🕒", ["three_o’clock", "clock3"]), ("🕓", ["four_o’clock", "clock4"]),
   ("🕔", ["five_o’clock", "clock5"]), ("🕕", ["six_o’clock", "clock6"]),
   ("🕖", ["seven_o’clock", "clock7"]), ("🕗", ["eight_o’clock", "clock8"]),
   ("🕘", ["nine_o’clock", "clock9"]), ("🕙", ["ten_o’clock", "clock10"]),
   ("🕚", ["eleven_o’clock", "clock11"]), ("🕛", ["twelve_o’clock", "clock12"]),
   ("🕜", ["one-thirty", "clock130"]), ("🕝", ["two-thirty", "clock230"]),
   ("🕞", ["three-thirty", "clock330"]), ("🕟", ["four-thirty", "clock430"]),
   ("🕠", ["five-thirty", "clock530"]), ("🕡", ["six-thirty", "clock630"]),
   ("🕢", ["seven-thirty", "clock730"]), ("🕣", ["eight-thirty", "clock830"]),
   ("🕤", ["nine-thirty", "clock930"]), ("🕥", ["ten-thirty", "clock1030"]),
   ("🕦", ["eleven-thirty", "clock1130"]), ("🕧", ["twelve-thirty", "clock1230"]), ("🕯", ["candle"]),
   ("🕰", ["mantelpiece_clock"]), ("🕳", ["hole"]), ("🕴", ["man_in_business_suit_levitating"]),
   ("🕵", ["sleuth_or_spy"]), ("🕶", ["dark_sunglasses"]), ("🕷", ["spider"]), ("🕸", ["spider_web"]),
   ("🕹", ["joystick"]), ("🖇", ["linked_paperclips"]), ("🖊", ["pen", "lower_left_ballpoint_pen"]),
   ("🖋", ["fountain_pen", "lower_left_fountain_pen"]),
   ("🖌", ["paintbrush", "lower_left_paintbrush"]), ("🖍", ["crayon", "lower_left_crayon"]),
   ("🖐", ["raised_hand_with_fingers_splayed"]),
   ("🖕", ["reversed_hand_with_middle_finger_extended"]),
   ("🖖", ["raised_hand_with_part_between_middle_and_ring_fingers"]), ("🖤", ["black_heart"]),
   ("🖥", ["desktop_computer"]), ("🖨", ["printer"]),
   ("🖱", ["computer_mouse", "three_button_mouse"]), ("🖲", ["trackball"]),
   ("🖼", ["framed_picture", "frame_with_picture"]), ("🗂", ["card_index_dividers"]),
   ("🗃", ["card_file_box"]), ("🗄", ["file_cabinet"]), ("🗑", ["wastebasket"]),
   ("🗒", ["spiral_notepad", "spiral_note_pad"]), ("🗓", ["spiral_calendar", "spiral_calendar_pad"]),
   ("🗜", ["clamp", "compression"]), ("🗝", ["old_key"]),
   ("🗞", ["rolled-up_newspaper", "rolled__up_newspaper"]), ("🗡", ["dagger", "dagger_knife"]),
   ("🗣", ["speaking_head", "speaking_head_in_silhouette"]), ("🗨", ["left_speech_bubble"]),
   ("🗯", ["right_anger_bubble"]), ("🗳", ["ballot_box_with_ballot"]), ("🗺", ["world_map"]),
   ("🗻", ["mount_fuji"]), ("🗼", ["tokyo_tower"]), ("🗽", ["statue_of_liberty"]),
   ("🗾", ["japan", "map_of_japan"]), ("🗿", ["moai", "moyai"])]

end Stepboard.Console.Emoji
