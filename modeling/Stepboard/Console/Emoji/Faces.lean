/-!
# Names of faces and later pictures

Faces, traffic, and what was added to them later, each with its names.
-/

namespace Stepboard.Console.Emoji

/-- Faces and gestures. -/
def faces : List (String × List String) :=
  [("😀", ["grinning_face", "grinning"]), ("😁", ["beaming_face_with_smiling_eyes", "grin"]),
   ("😂", ["face_with_tears_of_joy", "joy"]), ("😃", ["grinning_face_with_big_eyes", "smiley"]),
   ("😄", ["grinning_face_with_smiling_eyes", "smile"]),
   ("😅", ["grinning_face_with_sweat", "sweat_smile"]),
   ("😆", ["grinning_squinting_face", "laughing", "satisfied"]),
   ("😇", ["smiling_face_with_halo", "innocent"]),
   ("😈", ["smiling_face_with_horns", "smiling_imp"]), ("😉", ["winking_face", "wink"]),
   ("😊", ["smiling_face_with_smiling_eyes", "blush"]), ("😋", ["face_savoring_food", "yum"]),
   ("😌", ["relieved_face", "relieved"]), ("😍", ["smiling_face_with_heart-eyes", "heart_eyes"]),
   ("😎", ["smiling_face_with_sunglasses", "sunglasses"]), ("😏", ["smirking_face", "smirk"]),
   ("😐", ["neutral_face"]), ("😑", ["expressionless_face", "expressionless"]),
   ("😒", ["unamused_face", "unamused"]), ("😓", ["downcast_face_with_sweat", "sweat"]),
   ("😔", ["pensive_face", "pensive"]), ("😕", ["confused_face", "confused"]),
   ("😖", ["confounded_face", "confounded"]), ("😗", ["kissing_face", "kissing"]),
   ("😘", ["face_blowing_a_kiss", "kissing_heart"]),
   ("😙", ["kissing_face_with_smiling_eyes", "kissing_smiling_eyes"]),
   ("😚", ["kissing_face_with_closed_eyes", "kissing_closed_eyes"]),
   ("😛", ["face_with_tongue", "stuck_out_tongue"]),
   ("😜", ["winking_face_with_tongue", "stuck_out_tongue_winking_eye"]),
   ("😝", ["squinting_face_with_tongue", "stuck_out_tongue_closed_eyes"]),
   ("😞", ["disappointed_face", "disappointed"]), ("😟", ["worried_face", "worried"]),
   ("😠", ["angry_face", "angry"]), ("😡", ["pouting_face", "rage"]), ("😢", ["crying_face", "cry"]),
   ("😣", ["persevering_face", "persevere"]), ("😤", ["face_with_steam_from_nose", "triumph"]),
   ("😥", ["sad_but_relieved_face", "disappointed_relieved"]),
   ("😦", ["frowning_face_with_open_mouth", "frowning"]), ("😧", ["anguished_face", "anguished"]),
   ("😨", ["fearful_face", "fearful"]), ("😩", ["weary_face", "weary"]),
   ("😪", ["sleepy_face", "sleepy"]), ("😫", ["tired_face"]), ("😬", ["grimacing_face", "grimacing"]),
   ("😭", ["loudly_crying_face", "sob"]), ("😮", ["face_with_open_mouth", "open_mouth"]),
   ("😯", ["hushed_face", "hushed"]), ("😰", ["anxious_face_with_sweat", "cold_sweat"]),
   ("😱", ["face_screaming_in_fear", "scream"]), ("😲", ["astonished_face", "astonished"]),
   ("😳", ["flushed_face", "flushed"]), ("😴", ["sleeping_face", "sleeping"]), ("😵", ["dizzy_face"]),
   ("😶", ["face_without_mouth", "no_mouth"]), ("😷", ["face_with_medical_mask", "mask"]),
   ("😸", ["grinning_cat_face_with_smiling_eyes", "smile_cat"]),
   ("😹", ["cat_face_with_tears_of_joy", "joy_cat"]), ("😺", ["grinning_cat_face", "smiley_cat"]),
   ("😻", ["smiling_cat_face_with_heart-eyes", "heart_eyes_cat"]),
   ("😼", ["cat_face_with_wry_smile", "smirk_cat"]), ("😽", ["kissing_cat_face", "kissing_cat"]),
   ("😾", ["pouting_cat_face", "pouting_cat"]), ("😿", ["crying_cat_face"]),
   ("🙀", ["weary_cat_face", "scream_cat"]), ("🙁", ["slightly_frowning_face"]),
   ("🙂", ["slightly_smiling_face"]), ("🙃", ["upside-down_face", "upside__down_face"]),
   ("🙄", ["face_with_rolling_eyes"]), ("🙅", ["no_good"]), ("🙆", ["ok_woman"]), ("🙇", ["bow"]),
   ("🙈", ["see-no-evil_monkey", "see_no_evil"]), ("🙉", ["hear-no-evil_monkey", "hear_no_evil"]),
   ("🙊", ["speak-no-evil_monkey", "speak_no_evil"]), ("🙋", ["raising_hand"]),
   ("🙌", ["raised_hands"]), ("🙎", ["person_with_pouting_face"]), ("🙏", ["pray"])]

/-- Traffic and buildings. -/
def traffic : List (String × List String) :=
  [("🚀", ["rocket"]), ("🚁", ["helicopter"]), ("🚂", ["locomotive", "steam_locomotive"]),
   ("🚃", ["railway_car"]), ("🚄", ["high-speed_train", "bullettrain_side"]),
   ("🚅", ["bullet_train", "bullettrain_front"]), ("🚆", ["train2"]), ("🚇", ["metro"]),
   ("🚈", ["light_rail"]), ("🚉", ["station"]), ("🚊", ["tram"]), ("🚋", ["train", "tram_car"]),
   ("🚌", ["bus"]), ("🚍", ["oncoming_bus"]), ("🚎", ["trolleybus"]), ("🚏", ["bus_stop", "busstop"]),
   ("🚐", ["minibus"]), ("🚑", ["ambulance"]), ("🚒", ["fire_engine"]), ("🚓", ["police_car"]),
   ("🚔", ["oncoming_police_car"]), ("🚕", ["taxi"]), ("🚖", ["oncoming_taxi"]),
   ("🚗", ["automobile", "car", "red_car"]), ("🚘", ["oncoming_automobile"]),
   ("🚙", ["sport_utility_vehicle", "blue_car"]), ("🚚", ["delivery_truck", "truck"]),
   ("🚛", ["articulated_lorry"]), ("🚜", ["tractor"]), ("🚝", ["monorail"]),
   ("🚞", ["mountain_railway"]), ("🚟", ["suspension_railway"]), ("🚠", ["mountain_cableway"]),
   ("🚡", ["aerial_tramway"]), ("🚢", ["ship"]), ("🚣", ["rowboat"]), ("🚤", ["speedboat"]),
   ("🚥", ["horizontal_traffic_light", "traffic_light"]), ("🚦", ["vertical_traffic_light"]),
   ("🚧", ["construction"]), ("🚨", ["police_car_light", "rotating_light"]),
   ("🚩", ["triangular_flag", "triangular_flag_on_post"]), ("🚪", ["door"]),
   ("🚫", ["prohibited", "no_entry_sign"]), ("🚬", ["cigarette", "smoking"]), ("🚭", ["no_smoking"]),
   ("🚮", ["litter_in_bin_sign", "put_litter_in_its_place"]),
   ("🚯", ["no_littering", "do_not_litter"]), ("🚰", ["potable_water"]),
   ("🚱", ["non-potable_water", "non__potable_water"]), ("🚲", ["bicycle", "bike"]),
   ("🚳", ["no_bicycles"]), ("🚴", ["bicyclist"]), ("🚵", ["mountain_bicyclist"]), ("🚶", ["walking"]),
   ("🚷", ["no_pedestrians"]), ("🚸", ["children_crossing"]), ("🚹", ["men’s_room", "mens"]),
   ("🚺", ["women’s_room", "womens"]), ("🚻", ["restroom"]), ("🚼", ["baby_symbol"]),
   ("🚽", ["toilet"]), ("🚾", ["water_closet", "wc"]), ("🚿", ["shower"]), ("🛀", ["bath"]),
   ("🛁", ["bathtub"]), ("🛂", ["passport_control"]), ("🛃", ["customs"]), ("🛄", ["baggage_claim"]),
   ("🛅", ["left_luggage"]), ("🛋", ["couch_and_lamp"]), ("🛌", ["sleeping_accommodation"]),
   ("🛍", ["shopping_bags"]), ("🛎", ["bellhop_bell"]), ("🛏", ["bed"]), ("🛐", ["place_of_worship"]),
   ("🛑", ["stop_sign"]), ("🛒", ["shopping_cart"]), ("🛕", ["hindu_temple"]),
   ("🛠", ["hammer_and_wrench"]), ("🛡", ["shield"]), ("🛢", ["oil_drum"]), ("🛣", ["motorway"]),
   ("🛤", ["railway_track"]), ("🛥", ["motor_boat"]), ("🛩", ["small_airplane"]),
   ("🛫", ["airplane_departure"]), ("🛬", ["airplane_arrival", "airplane_arriving"]),
   ("🛳", ["passenger_ship"]), ("🛴", ["kick_scooter"]), ("🛵", ["motor_scooter"]), ("🛶", ["canoe"]),
   ("🛷", ["sled"]), ("🛸", ["flying_saucer"]), ("🛹", ["skateboard"]), ("🛺", ["auto_rickshaw"])]

/-- Later faces, animals, food and things. -/
def later : List (String × List String) :=
  [("🟠", ["orange_circle"]), ("🟡", ["yellow_circle"]), ("🟢", ["green_circle"]),
   ("🟣", ["purple_circle"]), ("🟤", ["brown_circle"]), ("🟥", ["red_square"]),
   ("🟦", ["blue_square"]), ("🟧", ["orange_square"]), ("🟨", ["yellow_square"]),
   ("🟩", ["green_square"]), ("🟪", ["purple_square"]), ("🟫", ["brown_square"]),
   ("🤍", ["white_heart"]), ("🤎", ["brown_heart"]), ("🤏", ["pinching_hand"]),
   ("🤐", ["zipper-mouth_face", "zipper__mouth_face"]),
   ("🤑", ["money-mouth_face", "money__mouth_face"]), ("🤒", ["face_with_thermometer"]),
   ("🤓", ["nerd_face"]), ("🤔", ["thinking_face"]),
   ("🤕", ["face_with_head-bandage", "face_with_head__bandage"]), ("🤖", ["robot_face", "robot"]),
   ("🤗", ["hugging_face"]), ("🤝", ["handshake"]), ("🤠", ["cowboy_hat_face"]),
   ("🤡", ["clown_face"]), ("🤢", ["nauseated_face"]), ("🤣", ["rolling_on_the_floor_laughing"]),
   ("🤤", ["drooling_face"]), ("🤥", ["lying_face"]), ("🤧", ["sneezing_face"]),
   ("🤨", ["face_with_raised_eyebrow"]), ("🤩", ["star-struck"]), ("🤪", ["zany_face"]),
   ("🤫", ["shushing_face"]), ("🤬", ["face_with_symbols_on_mouth"]),
   ("🤭", ["face_with_hand_over_mouth"]), ("🤮", ["face_vomiting"]), ("🤯", ["exploding_head"]),
   ("🤺", ["person_fencing"]), ("🤼", ["people_wrestling"]), ("🤿", ["diving_mask"]),
   ("🥀", ["wilted_flower"]), ("🥁", ["drum"]), ("🥂", ["clinking_glasses"]),
   ("🥃", ["tumbler_glass"]), ("🥄", ["spoon"]), ("🥅", ["goal_net"]), ("🥇", ["1st_place_medal"]),
   ("🥈", ["2nd_place_medal"]), ("🥉", ["3rd_place_medal"]), ("🥊", ["boxing_glove"]),
   ("🥋", ["martial_arts_uniform"]), ("🥌", ["curling_stone"]), ("🥍", ["lacrosse"]),
   ("🥎", ["softball"]), ("🥏", ["flying_disc"]), ("🥐", ["croissant"]), ("🥑", ["avocado"]),
   ("🥒", ["cucumber"]), ("🥓", ["bacon"]), ("🥔", ["potato"]), ("🥕", ["carrot"]),
   ("🥖", ["baguette_bread"]), ("🥗", ["green_salad"]), ("🥘", ["shallow_pan_of_food"]),
   ("🥙", ["stuffed_flatbread"]), ("🥛", ["glass_of_milk"]), ("🥜", ["peanuts"]),
   ("🥝", ["kiwi_fruit"]), ("🥞", ["pancakes"]), ("🥟", ["dumpling"]), ("🥠", ["fortune_cookie"]),
   ("🥡", ["takeout_box"]), ("🥢", ["chopsticks"]), ("🥣", ["bowl_with_spoon"]),
   ("🥤", ["cup_with_straw"]), ("🥥", ["coconut"]), ("🥦", ["broccoli"]), ("🥧", ["pie"]),
   ("🥨", ["pretzel"]), ("🥩", ["cut_of_meat"]), ("🥪", ["sandwich"]), ("🥫", ["canned_food"]),
   ("🥬", ["leafy_green"]), ("🥭", ["mango"]), ("🥮", ["moon_cake"]), ("🥯", ["bagel"]),
   ("🥰", ["smiling_face_with_3_hearts"]), ("🥱", ["yawning_face"]), ("🥳", ["partying_face"]),
   ("🥴", ["woozy_face"]), ("🥵", ["hot_face"]), ("🥶", ["cold_face"]), ("🥺", ["pleading_face"]),
   ("🥻", ["sari"]), ("🥼", ["lab_coat"]), ("🥽", ["goggles"]), ("🥾", ["hiking_boot"]),
   ("🥿", ["flat_shoe"]), ("🦀", ["crab"]), ("🦁", ["lion_face"]), ("🦂", ["scorpion"]),
   ("🦃", ["turkey"]), ("🦄", ["unicorn_face"]), ("🦅", ["eagle"]), ("🦆", ["duck"]), ("🦇", ["bat"]),
   ("🦈", ["shark"]), ("🦉", ["owl"]), ("🦊", ["fox_face"]), ("🦋", ["butterfly"]), ("🦌", ["deer"]),
   ("🦍", ["gorilla"]), ("🦎", ["lizard"]), ("🦏", ["rhinoceros"]), ("🦐", ["shrimp"]),
   ("🦑", ["squid"]), ("🦒", ["giraffe"]), ("🦓", ["zebra"]), ("🦔", ["hedgehog"]),
   ("🦕", ["sauropod"]), ("🦖", ["t-rex"]), ("🦗", ["cricket"]), ("🦘", ["kangaroo"]),
   ("🦙", ["llama"]), ("🦚", ["peacock"]), ("🦛", ["hippopotamus"]), ("🦜", ["parrot"]),
   ("🦝", ["raccoon"]), ("🦞", ["lobster"]), ("🦟", ["mosquito"]), ("🦠", ["microbe"]),
   ("🦡", ["badger"]), ("🦢", ["swan"]), ("🦥", ["sloth"]), ("🦦", ["otter"]), ("🦧", ["orangutan"]),
   ("🦨", ["skunk"]), ("🦩", ["flamingo"]), ("🦪", ["oyster"]), ("🦮", ["guide_dog"]),
   ("🦯", ["probing_cane"]), ("🦰", ["red_hair"]), ("🦱", ["curly_hair"]), ("🦲", ["bald"]),
   ("🦳", ["white_hair"]), ("🦴", ["bone"]), ("🦵", ["leg"]), ("🦶", ["foot"]), ("🦷", ["tooth"]),
   ("🦸", ["superhero"]), ("🦹", ["supervillain"]), ("🦺", ["safety_vest"]),
   ("🦻", ["ear_with_hearing_aid"]), ("🦼", ["motorized_wheelchair"]), ("🦽", ["manual_wheelchair"]),
   ("🦾", ["mechanical_arm"]), ("🦿", ["mechanical_leg"]), ("🧀", ["cheese_wedge"]),
   ("🧁", ["cupcake"]), ("🧂", ["salt"]), ("🧃", ["beverage_box"]), ("🧄", ["garlic"]),
   ("🧅", ["onion"]), ("🧆", ["falafel"]), ("🧇", ["waffle"]), ("🧈", ["butter"]), ("🧉", ["mate"]),
   ("🧊", ["ice"]), ("🧍", ["person_standing"]), ("🧎", ["person_kneeling"]), ("🧏", ["deaf_person"]),
   ("🧐", ["face_with_monocle"]), ("🧞", ["genie"]), ("🧟", ["zombie"]), ("🧠", ["brain"]),
   ("🧡", ["orange_heart"]), ("🧢", ["billed_cap"]), ("🧣", ["scarf"]), ("🧤", ["gloves"]),
   ("🧥", ["coat"]), ("🧦", ["socks"]), ("🧧", ["red_envelope"]), ("🧨", ["firecracker"]),
   ("🧩", ["jigsaw"]), ("🧪", ["test_tube"]), ("🧫", ["petri_dish"]), ("🧬", ["dna"]),
   ("🧭", ["compass"]), ("🧮", ["abacus"]), ("🧯", ["fire_extinguisher"]), ("🧰", ["toolbox"]),
   ("🧱", ["brick"]), ("🧲", ["magnet"]), ("🧳", ["luggage"]), ("🧴", ["lotion_bottle"]),
   ("🧵", ["thread"]), ("🧶", ["yarn"]), ("🧷", ["safety_pin"]), ("🧸", ["teddy_bear"]),
   ("🧹", ["broom"]), ("🧺", ["basket"]), ("🧻", ["roll_of_paper"]), ("🧼", ["soap"]),
   ("🧽", ["sponge"]), ("🧾", ["receipt"]), ("🧿", ["nazar_amulet"]), ("🩰", ["ballet_shoes"]),
   ("🩱", ["one-piece_swimsuit"]), ("🩲", ["briefs"]), ("🩳", ["shorts"]), ("🩸", ["drop_of_blood"]),
   ("🩹", ["adhesive_bandage"]), ("🩺", ["stethoscope"]), ("🪀", ["yo-yo"]), ("🪁", ["kite"]),
   ("🪐", ["ringed_planet"]), ("🪑", ["chair"]), ("🪒", ["razor"]), ("🪓", ["axe"]),
   ("🪔", ["diya_lamp"]), ("🪕", ["banjo"])]

end Stepboard.Console.Emoji
