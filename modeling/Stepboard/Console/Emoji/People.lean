/-!
# Names of people

People and parts of the body. Most of them take a tone of the skin; families and pairs do not.
-/

namespace Stepboard.Console.Emoji

/-- People and parts of the body, which take a tone. -/
def people : List (String × List String) :=
  [("☝", ["index_pointing_up"]), ("⛹", ["person_bouncing_ball"]), ("✊", ["raised_fist"]),
   ("✋", ["raised_hand"]), ("✌", ["victory_hand"]), ("✍", ["writing_hand"]),
   ("🎅", ["santa_claus"]), ("🏂", ["snowboarder"]), ("🏃", ["person_running"]),
   ("🏄", ["person_surfing"]), ("🏇", ["horse_racing"]), ("🏊", ["person_swimming"]),
   ("🏋", ["person_lifting_weights"]), ("🏌", ["person_golfing"]), ("👂", ["ear"]), ("👃", ["nose"]),
   ("👆", ["backhand_index_pointing_up"]), ("👇", ["backhand_index_pointing_down"]),
   ("👈", ["backhand_index_pointing_left"]), ("👉", ["backhand_index_pointing_right"]),
   ("👊", ["oncoming_fist"]), ("👋", ["waving_hand"]), ("👌", ["ok_hand"]), ("👍", ["thumbs_up"]),
   ("👎", ["thumbs_down"]), ("👏", ["clapping_hands"]), ("👐", ["open_hands"]), ("👦", ["boy"]),
   ("👧", ["girl"]), ("👨", ["man"]), ("👩", ["woman"]), ("👮", ["police_officer"]),
   ("👰", ["bride_with_veil"]), ("👱", ["blond-haired_person"]), ("👲", ["man_with_chinese_cap"]),
   ("👳", ["person_wearing_turban"]), ("👴", ["old_man"]), ("👵", ["old_woman"]), ("👶", ["baby"]),
   ("👷", ["construction_worker"]), ("👸", ["princess"]), ("👼", ["baby_angel"]),
   ("💁", ["person_tipping_hand"]), ("💂", ["guard"]), ("💃", ["woman_dancing"]),
   ("💅", ["nail_polish"]), ("💆", ["person_getting_massage"]), ("💇", ["person_getting_haircut"]),
   ("💪", ["flexed_biceps"]), ("🕴", ["man_in_suit_levitating"]), ("🕵", ["detective"]),
   ("🕺", ["man_dancing"]), ("🖐", ["hand_with_fingers_splayed"]), ("🖕", ["middle_finger"]),
   ("🖖", ["vulcan_salute"]), ("🙅", ["person_gesturing_no"]), ("🙆", ["person_gesturing_ok"]),
   ("🙇", ["person_bowing"]), ("🙋", ["person_raising_hand"]), ("🙌", ["raising_hands"]),
   ("🙍", ["person_frowning"]), ("🙎", ["person_pouting"]), ("🙏", ["folded_hands"]),
   ("🚣", ["person_rowing_boat"]), ("🚴", ["person_biking"]), ("🚵", ["person_mountain_biking"]),
   ("🚶", ["person_walking"]), ("🛀", ["person_taking_bath"]), ("🛌", ["person_in_bed"]),
   ("🤘", ["sign_of_the_horns"]), ("🤙", ["call_me_hand"]), ("🤚", ["raised_back_of_hand"]),
   ("🤛", ["left-facing_fist"]), ("🤜", ["right-facing_fist"]), ("🤞", ["crossed_fingers"]),
   ("🤟", ["love-you_gesture"]), ("🤦", ["person_facepalming"]), ("🤰", ["pregnant_woman"]),
   ("🤱", ["breast-feeding"]), ("🤲", ["palms_up_together"]), ("🤳", ["selfie"]), ("🤴", ["prince"]),
   ("🤵", ["man_in_tuxedo"]), ("🤶", ["mrs._claus"]), ("🤷", ["person_shrugging"]),
   ("🤸", ["person_cartwheeling"]), ("🤹", ["person_juggling"]),
   ("🤽", ["person_playing_water_polo"]), ("🤾", ["person_playing_handball"]), ("🧑", ["adult"]),
   ("🧒", ["child"]), ("🧓", ["older_adult"]), ("🧔", ["bearded_person"]),
   ("🧕", ["woman_with_headscarf"]), ("🧖", ["person_in_steamy_room"]), ("🧗", ["person_climbing"]),
   ("🧘", ["person_in_lotus_position"]), ("🧙", ["mage"]), ("🧚", ["fairy"]), ("🧛", ["vampire"]),
   ("🧜", ["merperson"]), ("🧝", ["elf"])]

/-- People at work or play, put together of several pictures, which take a tone. -/
def activities : List (String × List String) :=
  [("⛹\ufe0f\u200d♀\ufe0f", ["woman_bouncing_ball"]),
   ("⛹\ufe0f\u200d♂\ufe0f", ["man_bouncing_ball"]), ("🏃\u200d♀\ufe0f", ["woman_running"]),
   ("🏃\u200d♂\ufe0f", ["man_running"]), ("🏄\u200d♀\ufe0f", ["woman_surfing"]),
   ("🏄\u200d♂\ufe0f", ["man_surfing"]), ("🏊\u200d♀\ufe0f", ["woman_swimming"]),
   ("🏊\u200d♂\ufe0f", ["man_swimming"]), ("🏋\ufe0f\u200d♀\ufe0f", ["woman_lifting_weights"]),
   ("🏋\ufe0f\u200d♂\ufe0f", ["man_lifting_weights"]), ("🏌\ufe0f\u200d♀\ufe0f", ["woman_golfing"]),
   ("🏌\ufe0f\u200d♂\ufe0f", ["man_golfing"]), ("👨\u200d⚕\ufe0f", ["man_health_worker"]),
   ("👨\u200d⚖\ufe0f", ["man_judge"]), ("👨\u200d✈\ufe0f", ["man_pilot"]),
   ("👨\u200d🌾", ["man_farmer"]), ("👨\u200d🍳", ["man_cook"]), ("👨\u200d🎓", ["man_student"]),
   ("👨\u200d🎤", ["man_singer"]), ("👨\u200d🎨", ["man_artist"]), ("👨\u200d🏫", ["man_teacher"]),
   ("👨\u200d🏭", ["man_factory_worker"]), ("👨\u200d💻", ["man_technologist"]),
   ("👨\u200d💼", ["man_office_worker"]), ("👨\u200d🔧", ["man_mechanic"]),
   ("👨\u200d🔬", ["man_scientist"]), ("👨\u200d🚀", ["man_astronaut"]),
   ("👨\u200d🚒", ["man_firefighter"]), ("👩\u200d⚕\ufe0f", ["woman_health_worker"]),
   ("👩\u200d⚖\ufe0f", ["woman_judge"]), ("👩\u200d✈\ufe0f", ["woman_pilot"]),
   ("👩\u200d🌾", ["woman_farmer"]), ("👩\u200d🍳", ["woman_cook"]), ("👩\u200d🎓", ["woman_student"]),
   ("👩\u200d🎤", ["woman_singer"]), ("👩\u200d🎨", ["woman_artist"]), ("👩\u200d🏫", ["woman_teacher"]),
   ("👩\u200d🏭", ["woman_factory_worker"]), ("👩\u200d💻", ["woman_technologist"]),
   ("👩\u200d💼", ["woman_office_worker"]), ("👩\u200d🔧", ["woman_mechanic"]),
   ("👩\u200d🔬", ["woman_scientist"]), ("👩\u200d🚀", ["woman_astronaut"]),
   ("👩\u200d🚒", ["woman_firefighter"]), ("👮\u200d♀\ufe0f", ["woman_police_officer"]),
   ("👮\u200d♂\ufe0f", ["man_police_officer"]), ("👱\u200d♀\ufe0f", ["blond-haired_woman"]),
   ("👱\u200d♂\ufe0f", ["blond-haired_man"]), ("👳\u200d♀\ufe0f", ["woman_wearing_turban"]),
   ("👳\u200d♂\ufe0f", ["man_wearing_turban"]), ("👷\u200d♀\ufe0f", ["woman_construction_worker"]),
   ("👷\u200d♂\ufe0f", ["man_construction_worker"]), ("💁\u200d♀\ufe0f", ["woman_tipping_hand"]),
   ("💁\u200d♂\ufe0f", ["man_tipping_hand"]), ("💂\u200d♀\ufe0f", ["woman_guard"]),
   ("💂\u200d♂\ufe0f", ["man_guard"]), ("💆\u200d♀\ufe0f", ["woman_getting_massage"]),
   ("💆\u200d♂\ufe0f", ["man_getting_massage"]), ("💇\u200d♀\ufe0f", ["woman_getting_haircut"]),
   ("💇\u200d♂\ufe0f", ["man_getting_haircut"]), ("🕵\ufe0f\u200d♀\ufe0f", ["woman_detective"]),
   ("🕵\ufe0f\u200d♂\ufe0f", ["man_detective"]), ("🙅\u200d♀\ufe0f", ["woman_gesturing_no"]),
   ("🙅\u200d♂\ufe0f", ["man_gesturing_no"]), ("🙆\u200d♀\ufe0f", ["woman_gesturing_ok"]),
   ("🙆\u200d♂\ufe0f", ["man_gesturing_ok"]), ("🙇\u200d♀\ufe0f", ["woman_bowing"]),
   ("🙇\u200d♂\ufe0f", ["man_bowing"]), ("🙋\u200d♀\ufe0f", ["woman_raising_hand"]),
   ("🙋\u200d♂\ufe0f", ["man_raising_hand"]), ("🙍\u200d♀\ufe0f", ["woman_frowning"]),
   ("🙍\u200d♂\ufe0f", ["man_frowning"]), ("🙎\u200d♀\ufe0f", ["woman_pouting"]),
   ("🙎\u200d♂\ufe0f", ["man_pouting"]), ("🚣\u200d♀\ufe0f", ["woman_rowing_boat"]),
   ("🚣\u200d♂\ufe0f", ["man_rowing_boat"]), ("🚴\u200d♀\ufe0f", ["woman_biking"]),
   ("🚴\u200d♂\ufe0f", ["man_biking"]), ("🚵\u200d♀\ufe0f", ["woman_mountain_biking"]),
   ("🚵\u200d♂\ufe0f", ["man_mountain_biking"]), ("🚶\u200d♀\ufe0f", ["woman_walking"]),
   ("🚶\u200d♂\ufe0f", ["man_walking"]), ("🤦\u200d♀\ufe0f", ["woman_facepalming"]),
   ("🤦\u200d♂\ufe0f", ["man_facepalming"]), ("🤷\u200d♀\ufe0f", ["woman_shrugging"]),
   ("🤷\u200d♂\ufe0f", ["man_shrugging"]), ("🤸\u200d♀\ufe0f", ["woman_cartwheeling"]),
   ("🤸\u200d♂\ufe0f", ["man_cartwheeling"]), ("🤹\u200d♀\ufe0f", ["woman_juggling"]),
   ("🤹\u200d♂\ufe0f", ["man_juggling"]), ("🤽\u200d♀\ufe0f", ["woman_playing_water_polo"]),
   ("🤽\u200d♂\ufe0f", ["man_playing_water_polo"]), ("🤾\u200d♀\ufe0f", ["woman_playing_handball"]),
   ("🤾\u200d♂\ufe0f", ["man_playing_handball"]), ("🧖\u200d♀\ufe0f", ["woman_in_steamy_room"]),
   ("🧖\u200d♂\ufe0f", ["man_in_steamy_room"]), ("🧗\u200d♀\ufe0f", ["woman_climbing"]),
   ("🧗\u200d♂\ufe0f", ["man_climbing"]), ("🧘\u200d♀\ufe0f", ["woman_in_lotus_position"]),
   ("🧘\u200d♂\ufe0f", ["man_in_lotus_position"]), ("🧙\u200d♀\ufe0f", ["woman_mage"]),
   ("🧙\u200d♂\ufe0f", ["man_mage"]), ("🧚\u200d♀\ufe0f", ["woman_fairy"]),
   ("🧚\u200d♂\ufe0f", ["man_fairy"]), ("🧛\u200d♀\ufe0f", ["woman_vampire"]),
   ("🧛\u200d♂\ufe0f", ["man_vampire"]), ("🧜\u200d♀\ufe0f", ["mermaid"]),
   ("🧜\u200d♂\ufe0f", ["merman"]), ("🧝\u200d♀\ufe0f", ["woman_elf"]),
   ("🧝\u200d♂\ufe0f", ["man_elf"])]

/-- Pairs, families and flags put together of several pictures, which take no tone. -/
def groups : List (String × List String) :=
  [("🏳\ufe0f\u200d🌈", ["rainbow_flag"]), ("🏴\u200d☠\ufe0f", ["pirate_flag"]),
   ("🐕\u200d🦺", ["service_dog"]), ("👁\ufe0f\u200d🗨\ufe0f", ["eye_in_speech_bubble"]),
   ("👨\u200d❤\ufe0f\u200d👨", ["couple_with_heart_man_man"]),
   ("👨\u200d❤\ufe0f\u200d💋\u200d👨", ["kiss_man_man"]), ("👨\u200d👦", ["family_man_boy"]),
   ("👨\u200d👦\u200d👦", ["family_man_boy_boy"]), ("👨\u200d👧", ["family_man_girl"]),
   ("👨\u200d👧\u200d👦", ["family_man_girl_boy"]), ("👨\u200d👧\u200d👧", ["family_man_girl_girl"]),
   ("👨\u200d👨\u200d👦", ["family_man_man_boy"]),
   ("👨\u200d👨\u200d👦\u200d👦", ["family_man_man_boy_boy"]),
   ("👨\u200d👨\u200d👧", ["family_man_man_girl"]),
   ("👨\u200d👨\u200d👧\u200d👦", ["family_man_man_girl_boy"]),
   ("👨\u200d👨\u200d👧\u200d👧", ["family_man_man_girl_girl"]),
   ("👨\u200d👩\u200d👦", ["family_man_woman_boy"]),
   ("👨\u200d👩\u200d👦\u200d👦", ["family_man_woman_boy_boy"]),
   ("👨\u200d👩\u200d👧", ["family_man_woman_girl"]),
   ("👨\u200d👩\u200d👧\u200d👦", ["family_man_woman_girl_boy"]),
   ("👨\u200d👩\u200d👧\u200d👧", ["family_man_woman_girl_girl"]),
   ("👨\u200d🦯", ["man_with_probing_cane"]), ("👨\u200d🦰", ["red-haired_man"]),
   ("👨\u200d🦱", ["curly-haired_man"]), ("👨\u200d🦲", ["bald_man"]),
   ("👨\u200d🦳", ["white-haired_man"]), ("👨\u200d🦼", ["man_in_motorized_wheelchair"]),
   ("👨\u200d🦽", ["man_in_manual_wheelchair"]),
   ("👩\u200d❤\ufe0f\u200d👨", ["couple_with_heart_woman_man"]),
   ("👩\u200d❤\ufe0f\u200d👩", ["couple_with_heart_woman_woman"]),
   ("👩\u200d❤\ufe0f\u200d💋\u200d👨", ["kiss_woman_man"]),
   ("👩\u200d❤\ufe0f\u200d💋\u200d👩", ["kiss_woman_woman"]), ("👩\u200d👦", ["family_woman_boy"]),
   ("👩\u200d👦\u200d👦", ["family_woman_boy_boy"]), ("👩\u200d👧", ["family_woman_girl"]),
   ("👩\u200d👧\u200d👦", ["family_woman_girl_boy"]), ("👩\u200d👧\u200d👧", ["family_woman_girl_girl"]),
   ("👩\u200d👩\u200d👦", ["family_woman_woman_boy"]),
   ("👩\u200d👩\u200d👦\u200d👦", ["family_woman_woman_boy_boy"]),
   ("👩\u200d👩\u200d👧", ["family_woman_woman_girl"]),
   ("👩\u200d👩\u200d👧\u200d👦", ["family_woman_woman_girl_boy"]),
   ("👩\u200d👩\u200d👧\u200d👧", ["family_woman_woman_girl_girl"]),
   ("👩\u200d🦯", ["woman_with_probing_cane"]), ("👩\u200d🦰", ["red-haired_woman"]),
   ("👩\u200d🦱", ["curly-haired_woman"]), ("👩\u200d🦲", ["bald_woman"]),
   ("👩\u200d🦳", ["white-haired_woman"]), ("👩\u200d🦼", ["woman_in_motorized_wheelchair"]),
   ("👩\u200d🦽", ["woman_in_manual_wheelchair"]), ("👯\u200d♀\ufe0f", ["women_with_bunny_ears"]),
   ("👯\u200d♂\ufe0f", ["men_with_bunny_ears"]), ("🤼\u200d♀\ufe0f", ["women_wrestling"]),
   ("🤼\u200d♂\ufe0f", ["men_wrestling"]), ("🧑\u200d🤝\u200d🧑", ["people_holding_hands"]),
   ("🧞\u200d♀\ufe0f", ["woman_genie"]), ("🧞\u200d♂\ufe0f", ["man_genie"]),
   ("🧟\u200d♀\ufe0f", ["woman_zombie"]), ("🧟\u200d♂\ufe0f", ["man_zombie"])]

end Stepboard.Console.Emoji
