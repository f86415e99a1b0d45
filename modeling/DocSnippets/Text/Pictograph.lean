import DocSnippets.Text.Cluster

/-!
# DocSnippets.Text.Pictograph

**Pictographs by name.** A name stands for one character or for several that are shown as one. The
names of hands and people also come with a skin tone: its modifier then stands after the first
character, in place of the selector there.
-/

namespace DocSnippets

namespace Pictograph

/-! ### Names -/

/-- Names by their first characters, each with the code points of its pictograph. -/
abbrev Index := List (Char × List (String × List Nat))

set_option maxRecDepth 20000 in
/-- The names of pictographs that come in one form only. -/
def names : Index :=
  [('+', [("+1", [0x1F44D])]),
   ('-', [("-1", [0x1F44E])]),
   ('1', [("100", [0x1F4AF]), ("1234", [0x1F522]), ("1st_place_medal", [0x1F947])]),
   ('2', [("2nd_place_medal", [0x1F948])]),
   ('3', [("3rd_place_medal", [0x1F949])]),
   ('8', [("8ball", [0x1F3B1])]),
   ('_', [("__1", [0x1F44E])]),
   ('a',
    [("a", [0x1F170]), ("a_button_(blood_type)", [0x1F170]), ("ab", [0x1F18E]),
     ("ab_button_(blood_type)", [0x1F18E]), ("abacus", [0x1F9EE]), ("abc", [0x1F524]),
     ("abcd", [0x1F521]), ("accept", [0x1F251]), ("adhesive_bandage", [0x1FA79]),
     ("admission_tickets", [0x1F39F]), ("aerial_tramway", [0x1F6A1]),
     ("afghanistan", [0x1F1E6, 0x1F1EB]), ("airplane", [0x2708]), ("airplane_arrival", [0x1F6EC]),
     ("airplane_arriving", [0x1F6EC]), ("airplane_departure", [0x1F6EB]),
     ("alarm_clock", [0x23F0]), ("albania", [0x1F1E6, 0x1F1F1]), ("alembic", [0x2697]),
     ("algeria", [0x1F1E9, 0x1F1FF]), ("alien", [0x1F47D]), ("alien_monster", [0x1F47E]),
     ("ambulance", [0x1F691]), ("american_football", [0x1F3C8]),
     ("american_samoa", [0x1F1E6, 0x1F1F8]), ("amphora", [0x1F3FA]), ("anchor", [0x2693]),
     ("andorra", [0x1F1E6, 0x1F1E9]), ("angel", [0x1F47C]), ("anger", [0x1F4A2]),
     ("anger_symbol", [0x1F4A2]), ("angola", [0x1F1E6, 0x1F1F4]), ("angry", [0x1F620]),
     ("angry_face", [0x1F620]), ("angry_face_with_horns", [0x1F47F]),
     ("anguilla", [0x1F1E6, 0x1F1EE]), ("anguished", [0x1F627]), ("anguished_face", [0x1F627]),
     ("ant", [0x1F41C]), ("antarctica", [0x1F1E6, 0x1F1F6]), ("antenna_bars", [0x1F4F6]),
     ("antigua_&_barbuda", [0x1F1E6, 0x1F1EC]), ("anxious_face_with_sweat", [0x1F630]),
     ("apple", [0x1F34E]), ("aquarius", [0x2652]), ("argentina", [0x1F1E6, 0x1F1F7]),
     ("aries", [0x2648]), ("armenia", [0x1F1E6, 0x1F1F2]), ("arrow_backward", [0x25C0]),
     ("arrow_double_down", [0x23EC]), ("arrow_double_up", [0x23EB]), ("arrow_down", [0x2B07]),
     ("arrow_down_small", [0x1F53D]), ("arrow_forward", [0x25B6]),
     ("arrow_heading_down", [0x2935]), ("arrow_heading_up", [0x2934]), ("arrow_left", [0x2B05]),
     ("arrow_lower_left", [0x2199]), ("arrow_lower_right", [0x2198]), ("arrow_right", [0x27A1]),
     ("arrow_right_hook", [0x21AA]), ("arrow_up", [0x2B06]), ("arrow_up_down", [0x2195]),
     ("arrow_up_small", [0x1F53C]), ("arrow_upper_left", [0x2196]),
     ("arrow_upper_right", [0x2197]), ("arrows_clockwise", [0x1F503]),
     ("arrows_counterclockwise", [0x1F504]), ("art", [0x1F3A8]), ("articulated_lorry", [0x1F69B]),
     ("artist_palette", [0x1F3A8]), ("aruba", [0x1F1E6, 0x1F1FC]),
     ("ascension_island", [0x1F1E6, 0x1F1E8]), ("astonished", [0x1F632]),
     ("astonished_face", [0x1F632]), ("athletic_shoe", [0x1F45F]), ("atm", [0x1F3E7]),
     ("atm_sign", [0x1F3E7]), ("atom_symbol", [0x269B]), ("australia", [0x1F1E6, 0x1F1FA]),
     ("austria", [0x1F1E6, 0x1F1F9]), ("auto_rickshaw", [0x1F6FA]), ("automobile", [0x1F697]),
     ("avocado", [0x1F951]), ("axe", [0x1FA93]), ("azerbaijan", [0x1F1E6, 0x1F1FF])]),
   ('b',
    [("b", [0x1F171]), ("b_button_(blood_type)", [0x1F171]), ("baby_bottle", [0x1F37C]),
     ("baby_chick", [0x1F424]), ("baby_symbol", [0x1F6BC]), ("back", [0x1F519]),
     ("back_arrow", [0x1F519]), ("bacon", [0x1F953]), ("badger", [0x1F9A1]),
     ("badminton", [0x1F3F8]), ("badminton_racquet_and_shuttlecock", [0x1F3F8]),
     ("bagel", [0x1F96F]), ("baggage_claim", [0x1F6C4]), ("baguette_bread", [0x1F956]),
     ("bahamas", [0x1F1E7, 0x1F1F8]), ("bahrain", [0x1F1E7, 0x1F1ED]), ("balance_scale", [0x2696]),
     ("bald", [0x1F9B2]), ("bald_man", [0x1F468, 0x200D, 0x1F9B2]),
     ("bald_woman", [0x1F469, 0x200D, 0x1F9B2]), ("ballet_shoes", [0x1FA70]),
     ("balloon", [0x1F388]), ("ballot_box_with_ballot", [0x1F5F3]),
     ("ballot_box_with_check", [0x2611]), ("bamboo", [0x1F38D]), ("banana", [0x1F34C]),
     ("bangbang", [0x203C]), ("bangladesh", [0x1F1E7, 0x1F1E9]), ("banjo", [0x1FA95]),
     ("bank", [0x1F3E6]), ("bar_chart", [0x1F4CA]), ("barbados", [0x1F1E7, 0x1F1E7]),
     ("barber", [0x1F488]), ("barber_pole", [0x1F488]), ("baseball", [0x26BE]),
     ("basket", [0x1F9FA]), ("basketball", [0x1F3C0]), ("bat", [0x1F987]), ("bath", [0x1F6C0]),
     ("bathtub", [0x1F6C1]), ("battery", [0x1F50B]), ("beach_with_umbrella", [0x1F3D6]),
     ("beaming_face_with_smiling_eyes", [0x1F601]), ("bear", [0x1F43B]), ("bear_face", [0x1F43B]),
     ("beating_heart", [0x1F493]), ("bed", [0x1F6CF]), ("bee", [0x1F41D]), ("beer", [0x1F37A]),
     ("beer_mug", [0x1F37A]), ("beers", [0x1F37B]), ("beetle", [0x1F41E]), ("beginner", [0x1F530]),
     ("belarus", [0x1F1E7, 0x1F1FE]), ("belgium", [0x1F1E7, 0x1F1EA]),
     ("belize", [0x1F1E7, 0x1F1FF]), ("bell", [0x1F514]), ("bell_with_slash", [0x1F515]),
     ("bellhop_bell", [0x1F6CE]), ("benin", [0x1F1E7, 0x1F1EF]), ("bento", [0x1F371]),
     ("bento_box", [0x1F371]), ("bermuda", [0x1F1E7, 0x1F1F2]), ("beverage_box", [0x1F9C3]),
     ("bhutan", [0x1F1E7, 0x1F1F9]), ("bicycle", [0x1F6B2]), ("bicyclist", [0x1F6B4]),
     ("bike", [0x1F6B2]), ("bikini", [0x1F459]), ("billed_cap", [0x1F9E2]),
     ("biohazard", [0x2623]), ("biohazard_sign", [0x2623]), ("bird", [0x1F426]),
     ("birthday", [0x1F382]), ("birthday_cake", [0x1F382]), ("black_circle", [0x26AB]),
     ("black_circle_for_record", [0x23FA]), ("black_flag", [0x1F3F4]), ("black_heart", [0x1F5A4]),
     ("black_joker", [0x1F0CF]), ("black_large_square", [0x2B1B]),
     ("black_left__pointing_double_triangle_with_vertical_bar", [0x23EE]),
     ("black_medium-small_square", [0x25FE]), ("black_medium_small_square", [0x25FE]),
     ("black_medium_square", [0x25FC]), ("black_nib", [0x2712]),
     ("black_right__pointing_double_triangle_with_vertical_bar", [0x23ED]),
     ("black_right__pointing_triangle_with_double_vertical_bar", [0x23EF]),
     ("black_small_square", [0x25AA]), ("black_square_button", [0x1F532]),
     ("black_square_for_stop", [0x23F9]), ("blossom", [0x1F33C]), ("blowfish", [0x1F421]),
     ("blue_book", [0x1F4D8]), ("blue_car", [0x1F699]), ("blue_circle", [0x1F535]),
     ("blue_heart", [0x1F499]), ("blue_square", [0x1F7E6]), ("blush", [0x1F60A]),
     ("boar", [0x1F417]), ("boat", [0x26F5]), ("bolivia", [0x1F1E7, 0x1F1F4]), ("bomb", [0x1F4A3]),
     ("bone", [0x1F9B4]), ("book", [0x1F4D6]), ("bookmark", [0x1F516]),
     ("bookmark_tabs", [0x1F4D1]), ("books", [0x1F4DA]), ("boom", [0x1F4A5]), ("boot", [0x1F462]),
     ("bosnia_&_herzegovina", [0x1F1E7, 0x1F1E6]), ("botswana", [0x1F1E7, 0x1F1FC]),
     ("bottle_with_popping_cork", [0x1F37E]), ("bouquet", [0x1F490]),
     ("bouvet_island", [0x1F1E7, 0x1F1FB]), ("bow", [0x1F647]), ("bow_and_arrow", [0x1F3F9]),
     ("bowl_with_spoon", [0x1F963]), ("bowling", [0x1F3B3]), ("boxing_glove", [0x1F94A]),
     ("brain", [0x1F9E0]), ("brazil", [0x1F1E7, 0x1F1F7]), ("bread", [0x1F35E]),
     ("brick", [0x1F9F1]), ("bridge_at_night", [0x1F309]), ("briefcase", [0x1F4BC]),
     ("briefs", [0x1FA72]), ("bright_button", [0x1F506]),
     ("british_indian_ocean_territory", [0x1F1EE, 0x1F1F4]),
     ("british_virgin_islands", [0x1F1FB, 0x1F1EC]), ("broccoli", [0x1F966]),
     ("broken_heart", [0x1F494]), ("broom", [0x1F9F9]), ("brown_circle", [0x1F7E4]),
     ("brown_heart", [0x1F90E]), ("brown_square", [0x1F7EB]), ("brunei", [0x1F1E7, 0x1F1F3]),
     ("bug", [0x1F41B]), ("building_construction", [0x1F3D7]), ("bulb", [0x1F4A1]),
     ("bulgaria", [0x1F1E7, 0x1F1EC]), ("bullet_train", [0x1F685]),
     ("bullettrain_front", [0x1F685]), ("bullettrain_side", [0x1F684]),
     ("burkina_faso", [0x1F1E7, 0x1F1EB]), ("burrito", [0x1F32F]), ("burundi", [0x1F1E7, 0x1F1EE]),
     ("bus", [0x1F68C]), ("bus_stop", [0x1F68F]), ("busstop", [0x1F68F]),
     ("bust_in_silhouette", [0x1F464]), ("busts_in_silhouette", [0x1F465]), ("butter", [0x1F9C8]),
     ("butterfly", [0x1F98B])]),
   ('c',
    [("cactus", [0x1F335]), ("cake", [0x1F370]), ("calendar", [0x1F4C6]), ("calling", [0x1F4F2]),
     ("cambodia", [0x1F1F0, 0x1F1ED]), ("camel", [0x1F42B]), ("camera", [0x1F4F7]),
     ("camera_with_flash", [0x1F4F8]), ("cameroon", [0x1F1E8, 0x1F1F2]), ("camping", [0x1F3D5]),
     ("canada", [0x1F1E8, 0x1F1E6]), ("canary_islands", [0x1F1EE, 0x1F1E8]), ("cancer", [0x264B]),
     ("candle", [0x1F56F]), ("candy", [0x1F36C]), ("canned_food", [0x1F96B]), ("canoe", [0x1F6F6]),
     ("cape_verde", [0x1F1E8, 0x1F1FB]), ("capital_abcd", [0x1F520]), ("capricorn", [0x2651]),
     ("car", [0x1F697]), ("card_file_box", [0x1F5C3]), ("card_index", [0x1F4C7]),
     ("card_index_dividers", [0x1F5C2]), ("caribbean_netherlands", [0x1F1E7, 0x1F1F6]),
     ("carousel_horse", [0x1F3A0]), ("carp_streamer", [0x1F38F]), ("carrot", [0x1F955]),
     ("castle", [0x1F3F0]), ("cat", [0x1F431]), ("cat2", [0x1F408]), ("cat_face", [0x1F431]),
     ("cat_face_with_tears_of_joy", [0x1F639]), ("cat_face_with_wry_smile", [0x1F63C]),
     ("cayman_islands", [0x1F1F0, 0x1F1FE]), ("cd", [0x1F4BF]),
     ("central_african_republic", [0x1F1E8, 0x1F1EB]), ("ceuta_&_melilla", [0x1F1EA, 0x1F1E6]),
     ("chad", [0x1F1F9, 0x1F1E9]), ("chains", [0x26D3]), ("chair", [0x1FA91]),
     ("chart", [0x1F4B9]), ("chart_decreasing", [0x1F4C9]), ("chart_increasing", [0x1F4C8]),
     ("chart_increasing_with_yen", [0x1F4B9]), ("chart_with_downwards_trend", [0x1F4C9]),
     ("chart_with_upwards_trend", [0x1F4C8]), ("checkered_flag", [0x1F3C1]),
     ("cheese_wedge", [0x1F9C0]), ("chequered_flag", [0x1F3C1]), ("cherries", [0x1F352]),
     ("cherry_blossom", [0x1F338]), ("chess_pawn", [0x265F]), ("chestnut", [0x1F330]),
     ("chicken", [0x1F414]), ("children_crossing", [0x1F6B8]), ("chile", [0x1F1E8, 0x1F1F1]),
     ("china", [0x1F1E8, 0x1F1F3]), ("chipmunk", [0x1F43F]), ("chocolate_bar", [0x1F36B]),
     ("chopsticks", [0x1F962]), ("christmas_island", [0x1F1E8, 0x1F1FD]),
     ("christmas_tree", [0x1F384]), ("church", [0x26EA]), ("cigarette", [0x1F6AC]),
     ("cinema", [0x1F3A6]), ("circled_m", [0x24C2]), ("circus_tent", [0x1F3AA]),
     ("city_sunrise", [0x1F307]), ("city_sunset", [0x1F306]), ("cityscape", [0x1F3D9]),
     ("cityscape_at_dusk", [0x1F306]), ("cl", [0x1F191]), ("cl_button", [0x1F191]),
     ("clamp", [0x1F5DC]), ("clap", [0x1F44F]), ("clapper", [0x1F3AC]),
     ("clapper_board", [0x1F3AC]), ("classical_building", [0x1F3DB]),
     ("clinking_beer_mugs", [0x1F37B]), ("clinking_glasses", [0x1F942]), ("clipboard", [0x1F4CB]),
     ("clipperton_island", [0x1F1E8, 0x1F1F5]), ("clock1", [0x1F550]), ("clock10", [0x1F559]),
     ("clock1030", [0x1F565]), ("clock11", [0x1F55A]), ("clock1130", [0x1F566]),
     ("clock12", [0x1F55B]), ("clock1230", [0x1F567]), ("clock130", [0x1F55C]),
     ("clock2", [0x1F551]), ("clock230", [0x1F55D]), ("clock3", [0x1F552]),
     ("clock330", [0x1F55E]), ("clock4", [0x1F553]), ("clock430", [0x1F55F]),
     ("clock5", [0x1F554]), ("clock530", [0x1F560]), ("clock6", [0x1F555]),
     ("clock630", [0x1F561]), ("clock7", [0x1F556]), ("clock730", [0x1F562]),
     ("clock8", [0x1F557]), ("clock830", [0x1F563]), ("clock9", [0x1F558]),
     ("clock930", [0x1F564]), ("clockwise_vertical_arrows", [0x1F503]), ("closed_book", [0x1F4D5]),
     ("closed_lock_with_key", [0x1F510]), ("closed_mailbox_with_lowered_flag", [0x1F4EA]),
     ("closed_mailbox_with_raised_flag", [0x1F4EB]), ("closed_umbrella", [0x1F302]),
     ("cloud", [0x2601]), ("cloud_with_lightning", [0x1F329]),
     ("cloud_with_lightning_and_rain", [0x26C8]), ("cloud_with_rain", [0x1F327]),
     ("cloud_with_snow", [0x1F328]), ("cloud_with_tornado", [0x1F32A]), ("clown_face", [0x1F921]),
     ("club_suit", [0x2663]), ("clubs", [0x2663]), ("clutch_bag", [0x1F45D]), ("coat", [0x1F9E5]),
     ("cocktail", [0x1F378]), ("cocktail_glass", [0x1F378]), ("coconut", [0x1F965]),
     ("cocos_(keeling)_islands", [0x1F1E8, 0x1F1E8]), ("coffee", [0x2615]), ("coffin", [0x26B0]),
     ("cold_face", [0x1F976]), ("cold_sweat", [0x1F630]), ("collision", [0x1F4A5]),
     ("colombia", [0x1F1E8, 0x1F1F4]), ("comet", [0x2604]), ("comoros", [0x1F1F0, 0x1F1F2]),
     ("compass", [0x1F9ED]), ("compression", [0x1F5DC]), ("computer", [0x1F4BB]),
     ("computer_disk", [0x1F4BD]), ("computer_mouse", [0x1F5B1]), ("confetti_ball", [0x1F38A]),
     ("confounded", [0x1F616]), ("confounded_face", [0x1F616]), ("confused", [0x1F615]),
     ("confused_face", [0x1F615]), ("congo_-_brazzaville", [0x1F1E8, 0x1F1EC]),
     ("congo_-_kinshasa", [0x1F1E8, 0x1F1E9]), ("congratulations", [0x3297]),
     ("construction", [0x1F6A7]), ("control_knobs", [0x1F39B]), ("convenience_store", [0x1F3EA]),
     ("cook_islands", [0x1F1E8, 0x1F1F0]), ("cooked_rice", [0x1F35A]), ("cookie", [0x1F36A]),
     ("cooking", [0x1F373]), ("cool", [0x1F192]), ("cool_button", [0x1F192]), ("cop", [0x1F46E]),
     ("copyright", [0xA9]), ("corn", [0x1F33D]), ("costa_rica", [0x1F1E8, 0x1F1F7]),
     ("couch_and_lamp", [0x1F6CB]), ("counterclockwise_arrows_button", [0x1F504]),
     ("couple", [0x1F46B]), ("couple_with_heart", [0x1F491]),
     ("couple_with_heart_man_man", [0x1F468, 0x200D, 0x2764, 0xFE0F, 0x200D, 0x1F468]),
     ("couple_with_heart_woman_man", [0x1F469, 0x200D, 0x2764, 0xFE0F, 0x200D, 0x1F468]),
     ("couple_with_heart_woman_woman", [0x1F469, 0x200D, 0x2764, 0xFE0F, 0x200D, 0x1F469]),
     ("couplekiss", [0x1F48F]), ("cow", [0x1F42E]), ("cow2", [0x1F404]), ("cow_face", [0x1F42E]),
     ("cowboy_hat_face", [0x1F920]), ("crab", [0x1F980]), ("crayon", [0x1F58D]),
     ("credit_card", [0x1F4B3]), ("crescent_moon", [0x1F319]), ("cricket", [0x1F997]),
     ("cricket_bat_and_ball", [0x1F3CF]), ("cricket_game", [0x1F3CF]),
     ("croatia", [0x1F1ED, 0x1F1F7]), ("crocodile", [0x1F40A]), ("croissant", [0x1F950]),
     ("cross_mark", [0x274C]), ("cross_mark_button", [0x274E]), ("crossed_flags", [0x1F38C]),
     ("crossed_swords", [0x2694]), ("crown", [0x1F451]), ("cry", [0x1F622]),
     ("crying_cat_face", [0x1F63F]), ("crying_face", [0x1F622]), ("crystal_ball", [0x1F52E]),
     ("cuba", [0x1F1E8, 0x1F1FA]), ("cucumber", [0x1F952]), ("cup_with_straw", [0x1F964]),
     ("cupcake", [0x1F9C1]), ("cupid", [0x1F498]), ("curling_stone", [0x1F94C]),
     ("curly-haired_man", [0x1F468, 0x200D, 0x1F9B1]),
     ("curly-haired_woman", [0x1F469, 0x200D, 0x1F9B1]), ("curly_hair", [0x1F9B1]),
     ("curly_loop", [0x27B0]), ("currency_exchange", [0x1F4B1]), ("curry", [0x1F35B]),
     ("curry_rice", [0x1F35B]), ("custard", [0x1F36E]), ("customs", [0x1F6C3]),
     ("cut_of_meat", [0x1F969]), ("cyclone", [0x1F300]), ("cyprus", [0x1F1E8, 0x1F1FE]),
     ("czechia", [0x1F1E8, 0x1F1FF])]),
   ('d',
    [("dagger", [0x1F5E1]), ("dagger_knife", [0x1F5E1]), ("dancer", [0x1F483]),
     ("dancers", [0x1F46F]), ("dango", [0x1F361]), ("dark_skin_tone", [0x1F3FF]),
     ("dark_sunglasses", [0x1F576]), ("dart", [0x1F3AF]), ("dash", [0x1F4A8]),
     ("dashing_away", [0x1F4A8]), ("date", [0x1F4C5]), ("deaf_person", [0x1F9CF]),
     ("deciduous_tree", [0x1F333]), ("deer", [0x1F98C]), ("delivery_truck", [0x1F69A]),
     ("denmark", [0x1F1E9, 0x1F1F0]), ("department_store", [0x1F3EC]),
     ("derelict_house", [0x1F3DA]), ("derelict_house_building", [0x1F3DA]), ("desert", [0x1F3DC]),
     ("desert_island", [0x1F3DD]), ("desktop_computer", [0x1F5A5]),
     ("diamond_shape_with_a_dot_inside", [0x1F4A0]), ("diamond_suit", [0x2666]),
     ("diamond_with_a_dot", [0x1F4A0]), ("diamonds", [0x2666]),
     ("diego_garcia", [0x1F1E9, 0x1F1EC]), ("dim_button", [0x1F505]), ("direct_hit", [0x1F3AF]),
     ("disappointed", [0x1F61E]), ("disappointed_face", [0x1F61E]),
     ("disappointed_relieved", [0x1F625]), ("diving_mask", [0x1F93F]), ("diya_lamp", [0x1FA94]),
     ("dizzy", [0x1F4AB]), ("dizzy_face", [0x1F635]), ("djibouti", [0x1F1E9, 0x1F1EF]),
     ("dna", [0x1F9EC]), ("do_not_litter", [0x1F6AF]), ("dog", [0x1F436]), ("dog2", [0x1F415]),
     ("dog_face", [0x1F436]), ("dollar", [0x1F4B5]), ("dollar_banknote", [0x1F4B5]),
     ("dolls", [0x1F38E]), ("dolphin", [0x1F42C]), ("dominica", [0x1F1E9, 0x1F1F2]),
     ("dominican_republic", [0x1F1E9, 0x1F1F4]), ("door", [0x1F6AA]),
     ("dotted_six-pointed_star", [0x1F52F]), ("double_curly_loop", [0x27BF]),
     ("double_exclamation_mark", [0x203C]), ("double_vertical_bar", [0x23F8]),
     ("doughnut", [0x1F369]), ("dove", [0x1F54A]), ("dove_of_peace", [0x1F54A]),
     ("down-left_arrow", [0x2199]), ("down-right_arrow", [0x2198]), ("down_arrow", [0x2B07]),
     ("downcast_face_with_sweat", [0x1F613]), ("downwards_button", [0x1F53D]),
     ("dragon", [0x1F409]), ("dragon_face", [0x1F432]), ("dress", [0x1F457]),
     ("dromedary_camel", [0x1F42A]), ("drooling_face", [0x1F924]), ("drop_of_blood", [0x1FA78]),
     ("droplet", [0x1F4A7]), ("drum", [0x1F941]), ("duck", [0x1F986]), ("dumpling", [0x1F95F]),
     ("dvd", [0x1F4C0])]),
   ('e',
    [("e-mail", [0x1F4E7]), ("e__mail", [0x1F4E7]), ("eagle", [0x1F985]),
     ("ear_of_corn", [0x1F33D]), ("ear_of_rice", [0x1F33E]), ("ear_with_hearing_aid", [0x1F9BB]),
     ("earth_africa", [0x1F30D]), ("earth_americas", [0x1F30E]), ("earth_asia", [0x1F30F]),
     ("ecuador", [0x1F1EA, 0x1F1E8]), ("egg", [0x1F373]), ("eggplant", [0x1F346]),
     ("egypt", [0x1F1EA, 0x1F1EC]), ("eight", [0x38, 0xFE0F, 0x20E3]),
     ("eight-pointed_star", [0x2734]), ("eight-spoked_asterisk", [0x2733]),
     ("eight-thirty", [0x1F563]), ("eight_pointed_black_star", [0x2734]),
     ("eight_spoked_asterisk", [0x2733]), ("eject_button", [0x23CF]), ("eject_symbol", [0x23CF]),
     ("el_salvador", [0x1F1F8, 0x1F1FB]), ("electric_plug", [0x1F50C]), ("elephant", [0x1F418]),
     ("eleven-thirty", [0x1F566]), ("email", [0x2709]),
     ("emoji_modifier_fitzpatrick_type__1__2", [0x1F3FB]),
     ("emoji_modifier_fitzpatrick_type__3", [0x1F3FC]),
     ("emoji_modifier_fitzpatrick_type__4", [0x1F3FD]),
     ("emoji_modifier_fitzpatrick_type__5", [0x1F3FE]),
     ("emoji_modifier_fitzpatrick_type__6", [0x1F3FF]), ("end", [0x1F51A]),
     ("end_arrow", [0x1F51A]),
     ("england", [0x1F3F4, 0xE0067, 0xE0062, 0xE0065, 0xE006E, 0xE0067, 0xE007F]),
     ("envelope", [0x2709]), ("envelope_with_arrow", [0x1F4E9]),
     ("equatorial_guinea", [0x1F1EC, 0x1F1F6]), ("eritrea", [0x1F1EA, 0x1F1F7]),
     ("estonia", [0x1F1EA, 0x1F1EA]), ("ethiopia", [0x1F1EA, 0x1F1F9]), ("euro", [0x1F4B6]),
     ("euro_banknote", [0x1F4B6]), ("european_castle", [0x1F3F0]),
     ("european_post_office", [0x1F3E4]), ("european_union", [0x1F1EA, 0x1F1FA]),
     ("evergreen_tree", [0x1F332]), ("ewe", [0x1F411]), ("exclamation", [0x2757]),
     ("exclamation_mark", [0x2757]), ("exclamation_question_mark", [0x2049]),
     ("exploding_head", [0x1F92F]), ("expressionless", [0x1F611]),
     ("expressionless_face", [0x1F611]), ("eye", [0x1F441]),
     ("eye_in_speech_bubble", [0x1F441, 0xFE0F, 0x200D, 0x1F5E8, 0xFE0F]),
     ("eyeglasses", [0x1F453]), ("eyes", [0x1F440])]),
   ('f',
    [("face_blowing_a_kiss", [0x1F618]), ("face_savoring_food", [0x1F60B]),
     ("face_screaming_in_fear", [0x1F631]), ("face_vomiting", [0x1F92E]),
     ("face_with_hand_over_mouth", [0x1F92D]), ("face_with_head-bandage", [0x1F915]),
     ("face_with_head__bandage", [0x1F915]), ("face_with_medical_mask", [0x1F637]),
     ("face_with_monocle", [0x1F9D0]), ("face_with_open_mouth", [0x1F62E]),
     ("face_with_raised_eyebrow", [0x1F928]), ("face_with_rolling_eyes", [0x1F644]),
     ("face_with_steam_from_nose", [0x1F624]), ("face_with_symbols_on_mouth", [0x1F92C]),
     ("face_with_tears_of_joy", [0x1F602]), ("face_with_thermometer", [0x1F912]),
     ("face_with_tongue", [0x1F61B]), ("face_without_mouth", [0x1F636]), ("facepunch", [0x1F44A]),
     ("factory", [0x1F3ED]), ("falafel", [0x1F9C6]), ("falkland_islands", [0x1F1EB, 0x1F1F0]),
     ("fallen_leaf", [0x1F342]), ("family", [0x1F46A]),
     ("family_man_boy", [0x1F468, 0x200D, 0x1F466]),
     ("family_man_boy_boy", [0x1F468, 0x200D, 0x1F466, 0x200D, 0x1F466]),
     ("family_man_girl", [0x1F468, 0x200D, 0x1F467]),
     ("family_man_girl_boy", [0x1F468, 0x200D, 0x1F467, 0x200D, 0x1F466]),
     ("family_man_girl_girl", [0x1F468, 0x200D, 0x1F467, 0x200D, 0x1F467]),
     ("family_man_man_boy", [0x1F468, 0x200D, 0x1F468, 0x200D, 0x1F466]),
     ("family_man_man_boy_boy", [0x1F468, 0x200D, 0x1F468, 0x200D, 0x1F466, 0x200D, 0x1F466]),
     ("family_man_man_girl", [0x1F468, 0x200D, 0x1F468, 0x200D, 0x1F467]),
     ("family_man_man_girl_boy", [0x1F468, 0x200D, 0x1F468, 0x200D, 0x1F467, 0x200D, 0x1F466]),
     ("family_man_man_girl_girl", [0x1F468, 0x200D, 0x1F468, 0x200D, 0x1F467, 0x200D, 0x1F467]),
     ("family_man_woman_boy", [0x1F468, 0x200D, 0x1F469, 0x200D, 0x1F466]),
     ("family_man_woman_boy_boy", [0x1F468, 0x200D, 0x1F469, 0x200D, 0x1F466, 0x200D, 0x1F466]),
     ("family_man_woman_girl", [0x1F468, 0x200D, 0x1F469, 0x200D, 0x1F467]),
     ("family_man_woman_girl_boy", [0x1F468, 0x200D, 0x1F469, 0x200D, 0x1F467, 0x200D, 0x1F466]),
     ("family_man_woman_girl_girl", [0x1F468, 0x200D, 0x1F469, 0x200D, 0x1F467, 0x200D, 0x1F467]),
     ("family_woman_boy", [0x1F469, 0x200D, 0x1F466]),
     ("family_woman_boy_boy", [0x1F469, 0x200D, 0x1F466, 0x200D, 0x1F466]),
     ("family_woman_girl", [0x1F469, 0x200D, 0x1F467]),
     ("family_woman_girl_boy", [0x1F469, 0x200D, 0x1F467, 0x200D, 0x1F466]),
     ("family_woman_girl_girl", [0x1F469, 0x200D, 0x1F467, 0x200D, 0x1F467]),
     ("family_woman_woman_boy", [0x1F469, 0x200D, 0x1F469, 0x200D, 0x1F466]),
     ("family_woman_woman_boy_boy", [0x1F469, 0x200D, 0x1F469, 0x200D, 0x1F466, 0x200D, 0x1F466]),
     ("family_woman_woman_girl", [0x1F469, 0x200D, 0x1F469, 0x200D, 0x1F467]),
     ("family_woman_woman_girl_boy", [0x1F469, 0x200D, 0x1F469, 0x200D, 0x1F467, 0x200D, 0x1F466]),
     ("family_woman_woman_girl_girl", [0x1F469, 0x200D, 0x1F469, 0x200D, 0x1F467, 0x200D, 0x1F467]),
     ("faroe_islands", [0x1F1EB, 0x1F1F4]), ("fast-forward_button", [0x23E9]),
     ("fast_down_button", [0x23EC]), ("fast_forward", [0x23E9]), ("fast_reverse_button", [0x23EA]),
     ("fast_up_button", [0x23EB]), ("fax", [0x1F4E0]), ("fax_machine", [0x1F4E0]),
     ("fearful", [0x1F628]), ("fearful_face", [0x1F628]), ("feet", [0x1F43E]),
     ("female_sign", [0x2640]), ("ferris_wheel", [0x1F3A1]), ("ferry", [0x26F4]),
     ("field_hockey", [0x1F3D1]), ("field_hockey_stick_and_ball", [0x1F3D1]),
     ("fiji", [0x1F1EB, 0x1F1EF]), ("file_cabinet", [0x1F5C4]), ("file_folder", [0x1F4C1]),
     ("film_frames", [0x1F39E]), ("film_projector", [0x1F4FD]), ("finland", [0x1F1EB, 0x1F1EE]),
     ("fire", [0x1F525]), ("fire_engine", [0x1F692]), ("fire_extinguisher", [0x1F9EF]),
     ("firecracker", [0x1F9E8]), ("fireworks", [0x1F386]), ("first_quarter_moon", [0x1F313]),
     ("first_quarter_moon_face", [0x1F31B]), ("first_quarter_moon_with_face", [0x1F31B]),
     ("fish", [0x1F41F]), ("fish_cake", [0x1F365]), ("fish_cake_with_swirl", [0x1F365]),
     ("fishing_pole", [0x1F3A3]), ("fishing_pole_and_fish", [0x1F3A3]), ("fist", [0x270A]),
     ("five", [0x35, 0xFE0F, 0x20E3]), ("five-thirty", [0x1F560]),
     ("flag_for_afghanistan", [0x1F1E6, 0x1F1EB]), ("flag_for_albania", [0x1F1E6, 0x1F1F1]),
     ("flag_for_algeria", [0x1F1E9, 0x1F1FF]), ("flag_for_american_samoa", [0x1F1E6, 0x1F1F8]),
     ("flag_for_andorra", [0x1F1E6, 0x1F1E9]), ("flag_for_angola", [0x1F1E6, 0x1F1F4]),
     ("flag_for_anguilla", [0x1F1E6, 0x1F1EE]), ("flag_for_antarctica", [0x1F1E6, 0x1F1F6]),
     ("flag_for_antigua_&_barbuda", [0x1F1E6, 0x1F1EC]),
     ("flag_for_argentina", [0x1F1E6, 0x1F1F7]), ("flag_for_armenia", [0x1F1E6, 0x1F1F2]),
     ("flag_for_aruba", [0x1F1E6, 0x1F1FC]), ("flag_for_ascension_island", [0x1F1E6, 0x1F1E8]),
     ("flag_for_australia", [0x1F1E6, 0x1F1FA]), ("flag_for_austria", [0x1F1E6, 0x1F1F9]),
     ("flag_for_azerbaijan", [0x1F1E6, 0x1F1FF]), ("flag_for_bahamas", [0x1F1E7, 0x1F1F8]),
     ("flag_for_bahrain", [0x1F1E7, 0x1F1ED]), ("flag_for_bangladesh", [0x1F1E7, 0x1F1E9]),
     ("flag_for_barbados", [0x1F1E7, 0x1F1E7]), ("flag_for_belarus", [0x1F1E7, 0x1F1FE]),
     ("flag_for_belgium", [0x1F1E7, 0x1F1EA]), ("flag_for_belize", [0x1F1E7, 0x1F1FF]),
     ("flag_for_benin", [0x1F1E7, 0x1F1EF]), ("flag_for_bermuda", [0x1F1E7, 0x1F1F2]),
     ("flag_for_bhutan", [0x1F1E7, 0x1F1F9]), ("flag_for_bolivia", [0x1F1E7, 0x1F1F4]),
     ("flag_for_bosnia_&_herzegovina", [0x1F1E7, 0x1F1E6]),
     ("flag_for_botswana", [0x1F1E7, 0x1F1FC]), ("flag_for_bouvet_island", [0x1F1E7, 0x1F1FB]),
     ("flag_for_brazil", [0x1F1E7, 0x1F1F7]),
     ("flag_for_british_indian_ocean_territory", [0x1F1EE, 0x1F1F4]),
     ("flag_for_british_virgin_islands", [0x1F1FB, 0x1F1EC]),
     ("flag_for_brunei", [0x1F1E7, 0x1F1F3]), ("flag_for_bulgaria", [0x1F1E7, 0x1F1EC]),
     ("flag_for_burkina_faso", [0x1F1E7, 0x1F1EB]), ("flag_for_burundi", [0x1F1E7, 0x1F1EE]),
     ("flag_for_cambodia", [0x1F1F0, 0x1F1ED]), ("flag_for_cameroon", [0x1F1E8, 0x1F1F2]),
     ("flag_for_canada", [0x1F1E8, 0x1F1E6]), ("flag_for_canary_islands", [0x1F1EE, 0x1F1E8]),
     ("flag_for_cape_verde", [0x1F1E8, 0x1F1FB]),
     ("flag_for_caribbean_netherlands", [0x1F1E7, 0x1F1F6]),
     ("flag_for_cayman_islands", [0x1F1F0, 0x1F1FE]),
     ("flag_for_central_african_republic", [0x1F1E8, 0x1F1EB]),
     ("flag_for_ceuta_&_melilla", [0x1F1EA, 0x1F1E6]), ("flag_for_chad", [0x1F1F9, 0x1F1E9]),
     ("flag_for_chile", [0x1F1E8, 0x1F1F1]), ("flag_for_china", [0x1F1E8, 0x1F1F3]),
     ("flag_for_christmas_island", [0x1F1E8, 0x1F1FD]),
     ("flag_for_clipperton_island", [0x1F1E8, 0x1F1F5]),
     ("flag_for_cocos__islands", [0x1F1E8, 0x1F1E8]), ("flag_for_colombia", [0x1F1E8, 0x1F1F4]),
     ("flag_for_comoros", [0x1F1F0, 0x1F1F2]),
     ("flag_for_congo____brazzaville", [0x1F1E8, 0x1F1EC]),
     ("flag_for_congo____kinshasa", [0x1F1E8, 0x1F1E9]),
     ("flag_for_cook_islands", [0x1F1E8, 0x1F1F0]), ("flag_for_costa_rica", [0x1F1E8, 0x1F1F7]),
     ("flag_for_croatia", [0x1F1ED, 0x1F1F7]), ("flag_for_cuba", [0x1F1E8, 0x1F1FA]),
     ("flag_for_cyprus", [0x1F1E8, 0x1F1FE]), ("flag_for_czech_republic", [0x1F1E8, 0x1F1FF]),
     ("flag_for_denmark", [0x1F1E9, 0x1F1F0]), ("flag_for_diego_garcia", [0x1F1E9, 0x1F1EC]),
     ("flag_for_djibouti", [0x1F1E9, 0x1F1EF]), ("flag_for_dominica", [0x1F1E9, 0x1F1F2]),
     ("flag_for_dominican_republic", [0x1F1E9, 0x1F1F4]), ("flag_for_ecuador", [0x1F1EA, 0x1F1E8]),
     ("flag_for_egypt", [0x1F1EA, 0x1F1EC]), ("flag_for_el_salvador", [0x1F1F8, 0x1F1FB]),
     ("flag_for_equatorial_guinea", [0x1F1EC, 0x1F1F6]), ("flag_for_eritrea", [0x1F1EA, 0x1F1F7]),
     ("flag_for_estonia", [0x1F1EA, 0x1F1EA]), ("flag_for_ethiopia", [0x1F1EA, 0x1F1F9]),
     ("flag_for_european_union", [0x1F1EA, 0x1F1FA]),
     ("flag_for_falkland_islands", [0x1F1EB, 0x1F1F0]),
     ("flag_for_faroe_islands", [0x1F1EB, 0x1F1F4]), ("flag_for_fiji", [0x1F1EB, 0x1F1EF]),
     ("flag_for_finland", [0x1F1EB, 0x1F1EE]), ("flag_for_france", [0x1F1EB, 0x1F1F7]),
     ("flag_for_french_guiana", [0x1F1EC, 0x1F1EB]),
     ("flag_for_french_polynesia", [0x1F1F5, 0x1F1EB]),
     ("flag_for_french_southern_territories", [0x1F1F9, 0x1F1EB]),
     ("flag_for_gabon", [0x1F1EC, 0x1F1E6]), ("flag_for_gambia", [0x1F1EC, 0x1F1F2]),
     ("flag_for_georgia", [0x1F1EC, 0x1F1EA]), ("flag_for_germany", [0x1F1E9, 0x1F1EA]),
     ("flag_for_ghana", [0x1F1EC, 0x1F1ED]), ("flag_for_gibraltar", [0x1F1EC, 0x1F1EE]),
     ("flag_for_greece", [0x1F1EC, 0x1F1F7]), ("flag_for_greenland", [0x1F1EC, 0x1F1F1]),
     ("flag_for_grenada", [0x1F1EC, 0x1F1E9]), ("flag_for_guadeloupe", [0x1F1EC, 0x1F1F5]),
     ("flag_for_guam", [0x1F1EC, 0x1F1FA]), ("flag_for_guatemala", [0x1F1EC, 0x1F1F9]),
     ("flag_for_guernsey", [0x1F1EC, 0x1F1EC]), ("flag_for_guinea", [0x1F1EC, 0x1F1F3]),
     ("flag_for_guinea__bissau", [0x1F1EC, 0x1F1FC]), ("flag_for_guyana", [0x1F1EC, 0x1F1FE]),
     ("flag_for_haiti", [0x1F1ED, 0x1F1F9]),
     ("flag_for_heard_&_mcdonald_islands", [0x1F1ED, 0x1F1F2]),
     ("flag_for_honduras", [0x1F1ED, 0x1F1F3]), ("flag_for_hong_kong", [0x1F1ED, 0x1F1F0]),
     ("flag_for_hungary", [0x1F1ED, 0x1F1FA]), ("flag_for_iceland", [0x1F1EE, 0x1F1F8]),
     ("flag_for_india", [0x1F1EE, 0x1F1F3]), ("flag_for_indonesia", [0x1F1EE, 0x1F1E9]),
     ("flag_for_iran", [0x1F1EE, 0x1F1F7]), ("flag_for_iraq", [0x1F1EE, 0x1F1F6]),
     ("flag_for_ireland", [0x1F1EE, 0x1F1EA]), ("flag_for_isle_of_man", [0x1F1EE, 0x1F1F2]),
     ("flag_for_israel", [0x1F1EE, 0x1F1F1]), ("flag_for_italy", [0x1F1EE, 0x1F1F9]),
     ("flag_for_jamaica", [0x1F1EF, 0x1F1F2]), ("flag_for_japan", [0x1F1EF, 0x1F1F5]),
     ("flag_for_jersey", [0x1F1EF, 0x1F1EA]), ("flag_for_jordan", [0x1F1EF, 0x1F1F4]),
     ("flag_for_kazakhstan", [0x1F1F0, 0x1F1FF]), ("flag_for_kenya", [0x1F1F0, 0x1F1EA]),
     ("flag_for_kiribati", [0x1F1F0, 0x1F1EE]), ("flag_for_kosovo", [0x1F1FD, 0x1F1F0]),
     ("flag_for_kuwait", [0x1F1F0, 0x1F1FC]), ("flag_for_kyrgyzstan", [0x1F1F0, 0x1F1EC]),
     ("flag_for_laos", [0x1F1F1, 0x1F1E6]), ("flag_for_latvia", [0x1F1F1, 0x1F1FB]),
     ("flag_for_lebanon", [0x1F1F1, 0x1F1E7]), ("flag_for_lesotho", [0x1F1F1, 0x1F1F8]),
     ("flag_for_liberia", [0x1F1F1, 0x1F1F7]), ("flag_for_libya", [0x1F1F1, 0x1F1FE]),
     ("flag_for_liechtenstein", [0x1F1F1, 0x1F1EE]), ("flag_for_lithuania", [0x1F1F1, 0x1F1F9]),
     ("flag_for_luxembourg", [0x1F1F1, 0x1F1FA]), ("flag_for_macau", [0x1F1F2, 0x1F1F4]),
     ("flag_for_macedonia", [0x1F1F2, 0x1F1F0]), ("flag_for_madagascar", [0x1F1F2, 0x1F1EC]),
     ("flag_for_malawi", [0x1F1F2, 0x1F1FC]), ("flag_for_malaysia", [0x1F1F2, 0x1F1FE]),
     ("flag_for_maldives", [0x1F1F2, 0x1F1FB]), ("flag_for_mali", [0x1F1F2, 0x1F1F1]),
     ("flag_for_malta", [0x1F1F2, 0x1F1F9]), ("flag_for_marshall_islands", [0x1F1F2, 0x1F1ED]),
     ("flag_for_martinique", [0x1F1F2, 0x1F1F6]), ("flag_for_mauritania", [0x1F1F2, 0x1F1F7]),
     ("flag_for_mauritius", [0x1F1F2, 0x1F1FA]), ("flag_for_mayotte", [0x1F1FE, 0x1F1F9]),
     ("flag_for_mexico", [0x1F1F2, 0x1F1FD]), ("flag_for_micronesia", [0x1F1EB, 0x1F1F2]),
     ("flag_for_moldova", [0x1F1F2, 0x1F1E9]), ("flag_for_monaco", [0x1F1F2, 0x1F1E8]),
     ("flag_for_mongolia", [0x1F1F2, 0x1F1F3]), ("flag_for_montenegro", [0x1F1F2, 0x1F1EA]),
     ("flag_for_montserrat", [0x1F1F2, 0x1F1F8]), ("flag_for_morocco", [0x1F1F2, 0x1F1E6]),
     ("flag_for_mozambique", [0x1F1F2, 0x1F1FF]), ("flag_for_myanmar", [0x1F1F2, 0x1F1F2]),
     ("flag_for_namibia", [0x1F1F3, 0x1F1E6]), ("flag_for_nauru", [0x1F1F3, 0x1F1F7]),
     ("flag_for_nepal", [0x1F1F3, 0x1F1F5]), ("flag_for_netherlands", [0x1F1F3, 0x1F1F1]),
     ("flag_for_new_caledonia", [0x1F1F3, 0x1F1E8]), ("flag_for_new_zealand", [0x1F1F3, 0x1F1FF]),
     ("flag_for_nicaragua", [0x1F1F3, 0x1F1EE]), ("flag_for_niger", [0x1F1F3, 0x1F1EA]),
     ("flag_for_nigeria", [0x1F1F3, 0x1F1EC]), ("flag_for_niue", [0x1F1F3, 0x1F1FA]),
     ("flag_for_norfolk_island", [0x1F1F3, 0x1F1EB]), ("flag_for_north_korea", [0x1F1F0, 0x1F1F5]),
     ("flag_for_northern_mariana_islands", [0x1F1F2, 0x1F1F5]),
     ("flag_for_norway", [0x1F1F3, 0x1F1F4]), ("flag_for_oman", [0x1F1F4, 0x1F1F2]),
     ("flag_for_pakistan", [0x1F1F5, 0x1F1F0]), ("flag_for_palau", [0x1F1F5, 0x1F1FC]),
     ("flag_for_palestinian_territories", [0x1F1F5, 0x1F1F8]),
     ("flag_for_panama", [0x1F1F5, 0x1F1E6]), ("flag_for_papua_new_guinea", [0x1F1F5, 0x1F1EC]),
     ("flag_for_paraguay", [0x1F1F5, 0x1F1FE]), ("flag_for_peru", [0x1F1F5, 0x1F1EA]),
     ("flag_for_philippines", [0x1F1F5, 0x1F1ED]),
     ("flag_for_pitcairn_islands", [0x1F1F5, 0x1F1F3]), ("flag_for_poland", [0x1F1F5, 0x1F1F1]),
     ("flag_for_portugal", [0x1F1F5, 0x1F1F9]), ("flag_for_puerto_rico", [0x1F1F5, 0x1F1F7]),
     ("flag_for_qatar", [0x1F1F6, 0x1F1E6]), ("flag_for_romania", [0x1F1F7, 0x1F1F4]),
     ("flag_for_russia", [0x1F1F7, 0x1F1FA]), ("flag_for_rwanda", [0x1F1F7, 0x1F1FC]),
     ("flag_for_samoa", [0x1F1FC, 0x1F1F8]), ("flag_for_san_marino", [0x1F1F8, 0x1F1F2]),
     ("flag_for_saudi_arabia", [0x1F1F8, 0x1F1E6]), ("flag_for_senegal", [0x1F1F8, 0x1F1F3]),
     ("flag_for_serbia", [0x1F1F7, 0x1F1F8]), ("flag_for_seychelles", [0x1F1F8, 0x1F1E8]),
     ("flag_for_sierra_leone", [0x1F1F8, 0x1F1F1]), ("flag_for_singapore", [0x1F1F8, 0x1F1EC]),
     ("flag_for_sint_maarten", [0x1F1F8, 0x1F1FD]), ("flag_for_slovakia", [0x1F1F8, 0x1F1F0]),
     ("flag_for_slovenia", [0x1F1F8, 0x1F1EE]), ("flag_for_solomon_islands", [0x1F1F8, 0x1F1E7]),
     ("flag_for_somalia", [0x1F1F8, 0x1F1F4]), ("flag_for_south_africa", [0x1F1FF, 0x1F1E6]),
     ("flag_for_south_georgia_&_south_sandwich_islands", [0x1F1EC, 0x1F1F8]),
     ("flag_for_south_korea", [0x1F1F0, 0x1F1F7]), ("flag_for_south_sudan", [0x1F1F8, 0x1F1F8]),
     ("flag_for_spain", [0x1F1EA, 0x1F1F8]), ("flag_for_sri_lanka", [0x1F1F1, 0x1F1F0]),
     ("flag_for_st._helena", [0x1F1F8, 0x1F1ED]),
     ("flag_for_st._kitts_&_nevis", [0x1F1F0, 0x1F1F3]),
     ("flag_for_st._lucia", [0x1F1F1, 0x1F1E8]), ("flag_for_st._martin", [0x1F1F2, 0x1F1EB]),
     ("flag_for_st._pierre_&_miquelon", [0x1F1F5, 0x1F1F2]),
     ("flag_for_st._vincent_&_grenadines", [0x1F1FB, 0x1F1E8]),
     ("flag_for_sudan", [0x1F1F8, 0x1F1E9]), ("flag_for_suriname", [0x1F1F8, 0x1F1F7]),
     ("flag_for_svalbard_&_jan_mayen", [0x1F1F8, 0x1F1EF]),
     ("flag_for_swaziland", [0x1F1F8, 0x1F1FF]), ("flag_for_sweden", [0x1F1F8, 0x1F1EA]),
     ("flag_for_switzerland", [0x1F1E8, 0x1F1ED]), ("flag_for_syria", [0x1F1F8, 0x1F1FE]),
     ("flag_for_taiwan", [0x1F1F9, 0x1F1FC]), ("flag_for_tajikistan", [0x1F1F9, 0x1F1EF]),
     ("flag_for_tanzania", [0x1F1F9, 0x1F1FF]), ("flag_for_thailand", [0x1F1F9, 0x1F1ED]),
     ("flag_for_timor__leste", [0x1F1F9, 0x1F1F1]), ("flag_for_togo", [0x1F1F9, 0x1F1EC]),
     ("flag_for_tokelau", [0x1F1F9, 0x1F1F0]), ("flag_for_tonga", [0x1F1F9, 0x1F1F4]),
     ("flag_for_trinidad_&_tobago", [0x1F1F9, 0x1F1F9]),
     ("flag_for_tristan_da_cunha", [0x1F1F9, 0x1F1E6]), ("flag_for_tunisia", [0x1F1F9, 0x1F1F3]),
     ("flag_for_turkey", [0x1F1F9, 0x1F1F7]), ("flag_for_turkmenistan", [0x1F1F9, 0x1F1F2]),
     ("flag_for_turks_&_caicos_islands", [0x1F1F9, 0x1F1E8]),
     ("flag_for_tuvalu", [0x1F1F9, 0x1F1FB]),
     ("flag_for_u.s._outlying_islands", [0x1F1FA, 0x1F1F2]),
     ("flag_for_u.s._virgin_islands", [0x1F1FB, 0x1F1EE]), ("flag_for_uganda", [0x1F1FA, 0x1F1EC]),
     ("flag_for_ukraine", [0x1F1FA, 0x1F1E6]),
     ("flag_for_united_arab_emirates", [0x1F1E6, 0x1F1EA]),
     ("flag_for_united_kingdom", [0x1F1EC, 0x1F1E7]),
     ("flag_for_united_states", [0x1F1FA, 0x1F1F8]), ("flag_for_uruguay", [0x1F1FA, 0x1F1FE]),
     ("flag_for_uzbekistan", [0x1F1FA, 0x1F1FF]), ("flag_for_vanuatu", [0x1F1FB, 0x1F1FA]),
     ("flag_for_vatican_city", [0x1F1FB, 0x1F1E6]), ("flag_for_venezuela", [0x1F1FB, 0x1F1EA]),
     ("flag_for_vietnam", [0x1F1FB, 0x1F1F3]), ("flag_for_wallis_&_futuna", [0x1F1FC, 0x1F1EB]),
     ("flag_for_western_sahara", [0x1F1EA, 0x1F1ED]), ("flag_for_yemen", [0x1F1FE, 0x1F1EA]),
     ("flag_for_zambia", [0x1F1FF, 0x1F1F2]), ("flag_for_zimbabwe", [0x1F1FF, 0x1F1FC]),
     ("flag_in_hole", [0x26F3]), ("flags", [0x1F38F]), ("flamingo", [0x1F9A9]),
     ("flashlight", [0x1F526]), ("flat_shoe", [0x1F97F]), ("fleur-de-lis", [0x269C]),
     ("fleur__de__lis", [0x269C]), ("flipper", [0x1F42C]), ("floppy_disk", [0x1F4BE]),
     ("flower_playing_cards", [0x1F3B4]), ("flushed", [0x1F633]), ("flushed_face", [0x1F633]),
     ("flying_disc", [0x1F94F]), ("flying_saucer", [0x1F6F8]), ("fog", [0x1F32B]),
     ("foggy", [0x1F301]), ("foot", [0x1F9B6]), ("football", [0x1F3C8]), ("footprints", [0x1F463]),
     ("fork_and_knife", [0x1F374]), ("fork_and_knife_with_plate", [0x1F37D]),
     ("fortune_cookie", [0x1F960]), ("fountain", [0x26F2]), ("fountain_pen", [0x1F58B]),
     ("four", [0x34, 0xFE0F, 0x20E3]), ("four-thirty", [0x1F55F]), ("four_leaf_clover", [0x1F340]),
     ("fox_face", [0x1F98A]), ("frame_with_picture", [0x1F5BC]), ("framed_picture", [0x1F5BC]),
     ("france", [0x1F1EB, 0x1F1F7]), ("free", [0x1F193]), ("free_button", [0x1F193]),
     ("french_fries", [0x1F35F]), ("french_guiana", [0x1F1EC, 0x1F1EB]),
     ("french_polynesia", [0x1F1F5, 0x1F1EB]), ("french_southern_territories", [0x1F1F9, 0x1F1EB]),
     ("fried_shrimp", [0x1F364]), ("fries", [0x1F35F]), ("frog", [0x1F438]),
     ("frog_face", [0x1F438]), ("front-facing_baby_chick", [0x1F425]), ("frowning", [0x1F626]),
     ("frowning_face", [0x2639]), ("frowning_face_with_open_mouth", [0x1F626]),
     ("fuel_pump", [0x26FD]), ("fuelpump", [0x26FD]), ("full_moon", [0x1F315]),
     ("full_moon_face", [0x1F31D]), ("full_moon_with_face", [0x1F31D]), ("funeral_urn", [0x26B1])]),
   ('g',
    [("gabon", [0x1F1EC, 0x1F1E6]), ("gambia", [0x1F1EC, 0x1F1F2]), ("game_die", [0x1F3B2]),
     ("garlic", [0x1F9C4]), ("gear", [0x2699]), ("gem", [0x1F48E]), ("gem_stone", [0x1F48E]),
     ("gemini", [0x264A]), ("genie", [0x1F9DE]), ("georgia", [0x1F1EC, 0x1F1EA]),
     ("germany", [0x1F1E9, 0x1F1EA]), ("ghana", [0x1F1EC, 0x1F1ED]), ("ghost", [0x1F47B]),
     ("gibraltar", [0x1F1EC, 0x1F1EE]), ("gift", [0x1F381]), ("gift_heart", [0x1F49D]),
     ("giraffe", [0x1F992]), ("glass_of_milk", [0x1F95B]), ("glasses", [0x1F453]),
     ("globe_showing_americas", [0x1F30E]), ("globe_showing_asia-australia", [0x1F30F]),
     ("globe_showing_europe-africa", [0x1F30D]), ("globe_with_meridians", [0x1F310]),
     ("gloves", [0x1F9E4]), ("glowing_star", [0x1F31F]), ("goal_net", [0x1F945]),
     ("goat", [0x1F410]), ("goblin", [0x1F47A]), ("goggles", [0x1F97D]), ("golf", [0x26F3]),
     ("golfer", [0x1F3CC]), ("gorilla", [0x1F98D]), ("graduation_cap", [0x1F393]),
     ("grapes", [0x1F347]), ("greece", [0x1F1EC, 0x1F1F7]), ("green_apple", [0x1F34F]),
     ("green_book", [0x1F4D7]), ("green_circle", [0x1F7E2]), ("green_heart", [0x1F49A]),
     ("green_salad", [0x1F957]), ("green_square", [0x1F7E9]), ("greenland", [0x1F1EC, 0x1F1F1]),
     ("grenada", [0x1F1EC, 0x1F1E9]), ("grey_exclamation", [0x2755]), ("grey_question", [0x2754]),
     ("grimacing", [0x1F62C]), ("grimacing_face", [0x1F62C]), ("grin", [0x1F601]),
     ("grinning", [0x1F600]), ("grinning_cat_face", [0x1F63A]),
     ("grinning_cat_face_with_smiling_eyes", [0x1F638]), ("grinning_face", [0x1F600]),
     ("grinning_face_with_big_eyes", [0x1F603]), ("grinning_face_with_smiling_eyes", [0x1F604]),
     ("grinning_face_with_sweat", [0x1F605]), ("grinning_squinting_face", [0x1F606]),
     ("growing_heart", [0x1F497]), ("guadeloupe", [0x1F1EC, 0x1F1F5]),
     ("guam", [0x1F1EC, 0x1F1FA]), ("guardsman", [0x1F482]), ("guatemala", [0x1F1EC, 0x1F1F9]),
     ("guernsey", [0x1F1EC, 0x1F1EC]), ("guide_dog", [0x1F9AE]), ("guinea", [0x1F1EC, 0x1F1F3]),
     ("guinea-bissau", [0x1F1EC, 0x1F1FC]), ("guitar", [0x1F3B8]), ("gun", [0x1F52B]),
     ("guyana", [0x1F1EC, 0x1F1FE])]),
   ('h',
    [("haircut", [0x1F487]), ("haiti", [0x1F1ED, 0x1F1F9]), ("hamburger", [0x1F354]),
     ("hammer", [0x1F528]), ("hammer_and_pick", [0x2692]), ("hammer_and_wrench", [0x1F6E0]),
     ("hamster", [0x1F439]), ("hamster_face", [0x1F439]), ("hand", [0x270B]),
     ("handbag", [0x1F45C]), ("handshake", [0x1F91D]), ("hankey", [0x1F4A9]),
     ("hatched_chick", [0x1F425]), ("hatching_chick", [0x1F423]), ("headphone", [0x1F3A7]),
     ("headphones", [0x1F3A7]), ("hear-no-evil_monkey", [0x1F649]), ("hear_no_evil", [0x1F649]),
     ("heard_&_mcdonald_islands", [0x1F1ED, 0x1F1F2]), ("heart", [0x2764]),
     ("heart_decoration", [0x1F49F]), ("heart_eyes", [0x1F60D]), ("heart_eyes_cat", [0x1F63B]),
     ("heart_suit", [0x2665]), ("heart_with_arrow", [0x1F498]), ("heart_with_ribbon", [0x1F49D]),
     ("heartbeat", [0x1F493]), ("heartpulse", [0x1F497]), ("hearts", [0x2665]),
     ("heavy_check_mark", [0x2714]), ("heavy_division_sign", [0x2797]),
     ("heavy_dollar_sign", [0x1F4B2]), ("heavy_exclamation_mark", [0x2757]),
     ("heavy_heart_exclamation", [0x2763]), ("heavy_heart_exclamation_mark_ornament", [0x2763]),
     ("heavy_large_circle", [0x2B55]), ("heavy_minus_sign", [0x2796]),
     ("heavy_multiplication_x", [0x2716]), ("heavy_plus_sign", [0x2795]), ("hedgehog", [0x1F994]),
     ("helicopter", [0x1F681]), ("helm_symbol", [0x2388]), ("helmet_with_white_cross", [0x26D1]),
     ("herb", [0x1F33F]), ("hibiscus", [0x1F33A]), ("high-heeled_shoe", [0x1F460]),
     ("high-speed_train", [0x1F684]), ("high_brightness", [0x1F506]), ("high_heel", [0x1F460]),
     ("high_voltage", [0x26A1]), ("hiking_boot", [0x1F97E]), ("hindu_temple", [0x1F6D5]),
     ("hippopotamus", [0x1F99B]), ("hocho", [0x1F52A]), ("hole", [0x1F573]),
     ("honduras", [0x1F1ED, 0x1F1F3]), ("honey_pot", [0x1F36F]), ("honeybee", [0x1F41D]),
     ("hong_kong_sar_china", [0x1F1ED, 0x1F1F0]), ("horizontal_traffic_light", [0x1F6A5]),
     ("horse", [0x1F434]), ("horse_face", [0x1F434]), ("hospital", [0x1F3E5]),
     ("hot_beverage", [0x2615]), ("hot_dog", [0x1F32D]), ("hot_face", [0x1F975]),
     ("hot_pepper", [0x1F336]), ("hot_springs", [0x2668]), ("hotel", [0x1F3E8]),
     ("hotsprings", [0x2668]), ("hourglass", [0x231B]), ("hourglass_done", [0x231B]),
     ("hourglass_flowing_sand", [0x23F3]), ("hourglass_not_done", [0x23F3]), ("house", [0x1F3E0]),
     ("house_buildings", [0x1F3D8]), ("house_with_garden", [0x1F3E1]), ("houses", [0x1F3D8]),
     ("hugging_face", [0x1F917]), ("hundred_points", [0x1F4AF]), ("hungary", [0x1F1ED, 0x1F1FA]),
     ("hushed", [0x1F62F]), ("hushed_face", [0x1F62F])]),
   ('i',
    [("ice", [0x1F9CA]), ("ice_cream", [0x1F368]), ("ice_hockey", [0x1F3D2]),
     ("ice_hockey_stick_and_puck", [0x1F3D2]), ("ice_skate", [0x26F8]), ("icecream", [0x1F366]),
     ("iceland", [0x1F1EE, 0x1F1F8]), ("id", [0x1F194]), ("id_button", [0x1F194]),
     ("ideograph_advantage", [0x1F250]), ("imp", [0x1F47F]), ("inbox_tray", [0x1F4E5]),
     ("incoming_envelope", [0x1F4E8]), ("india", [0x1F1EE, 0x1F1F3]),
     ("indonesia", [0x1F1EE, 0x1F1E9]), ("infinity", [0x267E]), ("information", [0x2139]),
     ("information_desk_person", [0x1F481]), ("information_source", [0x2139]),
     ("innocent", [0x1F607]), ("input_latin_letters", [0x1F524]),
     ("input_latin_lowercase", [0x1F521]), ("input_latin_uppercase", [0x1F520]),
     ("input_numbers", [0x1F522]), ("input_symbols", [0x1F523]), ("interrobang", [0x2049]),
     ("iphone", [0x1F4F1]), ("iran", [0x1F1EE, 0x1F1F7]), ("iraq", [0x1F1EE, 0x1F1F6]),
     ("ireland", [0x1F1EE, 0x1F1EA]), ("isle_of_man", [0x1F1EE, 0x1F1F2]),
     ("israel", [0x1F1EE, 0x1F1F1]), ("italy", [0x1F1EE, 0x1F1F9]),
     ("izakaya_lantern", [0x1F3EE])]),
   ('j',
    [("jack-o-lantern", [0x1F383]), ("jack_o_lantern", [0x1F383]), ("jamaica", [0x1F1EF, 0x1F1F2]),
     ("japan", [0x1F5FE]), ("japanese_acceptable_button", [0x1F251]),
     ("japanese_application_button", [0x1F238]), ("japanese_bargain_button", [0x1F250]),
     ("japanese_castle", [0x1F3EF]), ("japanese_congratulations_button", [0x3297]),
     ("japanese_discount_button", [0x1F239]), ("japanese_dolls", [0x1F38E]),
     ("japanese_free_of_charge_button", [0x1F21A]), ("japanese_goblin", [0x1F47A]),
     ("japanese_here_button", [0x1F201]), ("japanese_monthly_amount_button", [0x1F237]),
     ("japanese_no_vacancy_button", [0x1F235]), ("japanese_not_free_of_charge_button", [0x1F236]),
     ("japanese_ogre", [0x1F479]), ("japanese_open_for_business_button", [0x1F23A]),
     ("japanese_passing_grade_button", [0x1F234]), ("japanese_post_office", [0x1F3E3]),
     ("japanese_prohibited_button", [0x1F232]), ("japanese_reserved_button", [0x1F22F]),
     ("japanese_secret_button", [0x3299]), ("japanese_service_charge_button", [0x1F202]),
     ("japanese_symbol_for_beginner", [0x1F530]), ("japanese_vacancy_button", [0x1F233]),
     ("jeans", [0x1F456]), ("jersey", [0x1F1EF, 0x1F1EA]), ("jigsaw", [0x1F9E9]),
     ("joker", [0x1F0CF]), ("jordan", [0x1F1EF, 0x1F1F4]), ("joy", [0x1F602]),
     ("joy_cat", [0x1F639]), ("joystick", [0x1F579])]),
   ('k',
    [("kaaba", [0x1F54B]), ("kangaroo", [0x1F998]), ("kazakhstan", [0x1F1F0, 0x1F1FF]),
     ("kenya", [0x1F1F0, 0x1F1EA]), ("key", [0x1F511]), ("keyboard", [0x2328]),
     ("keycap_#", [0x23, 0xFE0F, 0x20E3]), ("keycap_*", [0x2A, 0xFE0F, 0x20E3]),
     ("keycap_0", [0x30, 0xFE0F, 0x20E3]), ("keycap_1", [0x31, 0xFE0F, 0x20E3]),
     ("keycap_10", [0x1F51F]), ("keycap_2", [0x32, 0xFE0F, 0x20E3]),
     ("keycap_3", [0x33, 0xFE0F, 0x20E3]), ("keycap_4", [0x34, 0xFE0F, 0x20E3]),
     ("keycap_5", [0x35, 0xFE0F, 0x20E3]), ("keycap_6", [0x36, 0xFE0F, 0x20E3]),
     ("keycap_7", [0x37, 0xFE0F, 0x20E3]), ("keycap_8", [0x38, 0xFE0F, 0x20E3]),
     ("keycap_9", [0x39, 0xFE0F, 0x20E3]), ("keycap_asterisk", [0x2A, 0x20E3]),
     ("keycap_digit_eight", [0x38, 0x20E3]), ("keycap_digit_five", [0x35, 0x20E3]),
     ("keycap_digit_four", [0x34, 0x20E3]), ("keycap_digit_nine", [0x39, 0x20E3]),
     ("keycap_digit_one", [0x31, 0x20E3]), ("keycap_digit_seven", [0x37, 0x20E3]),
     ("keycap_digit_six", [0x36, 0x20E3]), ("keycap_digit_three", [0x33, 0x20E3]),
     ("keycap_digit_two", [0x32, 0x20E3]), ("keycap_digit_zero", [0x30, 0x20E3]),
     ("keycap_number_sign", [0x23, 0x20E3]), ("kick_scooter", [0x1F6F4]), ("kimono", [0x1F458]),
     ("kiribati", [0x1F1F0, 0x1F1EE]), ("kiss", [0x1F48B]),
     ("kiss_man_man", [0x1F468, 0x200D, 0x2764, 0xFE0F, 0x200D, 0x1F48B, 0x200D, 0x1F468]),
     ("kiss_mark", [0x1F48B]),
     ("kiss_woman_man", [0x1F469, 0x200D, 0x2764, 0xFE0F, 0x200D, 0x1F48B, 0x200D, 0x1F468]),
     ("kiss_woman_woman", [0x1F469, 0x200D, 0x2764, 0xFE0F, 0x200D, 0x1F48B, 0x200D, 0x1F469]),
     ("kissing", [0x1F617]), ("kissing_cat", [0x1F63D]), ("kissing_cat_face", [0x1F63D]),
     ("kissing_closed_eyes", [0x1F61A]), ("kissing_face", [0x1F617]),
     ("kissing_face_with_closed_eyes", [0x1F61A]), ("kissing_face_with_smiling_eyes", [0x1F619]),
     ("kissing_heart", [0x1F618]), ("kissing_smiling_eyes", [0x1F619]),
     ("kitchen_knife", [0x1F52A]), ("kite", [0x1FA81]), ("kiwi_fruit", [0x1F95D]),
     ("knife", [0x1F52A]), ("koala", [0x1F428]), ("koko", [0x1F201]),
     ("kosovo", [0x1F1FD, 0x1F1F0]), ("kuwait", [0x1F1F0, 0x1F1FC]),
     ("kyrgyzstan", [0x1F1F0, 0x1F1EC])]),
   ('l',
    [("lab_coat", [0x1F97C]), ("label", [0x1F3F7]), ("lacrosse", [0x1F94D]),
     ("lady_beetle", [0x1F41E]), ("lantern", [0x1F3EE]), ("laos", [0x1F1F1, 0x1F1E6]),
     ("laptop_computer", [0x1F4BB]), ("large_blue_circle", [0x1F535]),
     ("large_blue_diamond", [0x1F537]), ("large_orange_diamond", [0x1F536]),
     ("last_quarter_moon", [0x1F317]), ("last_quarter_moon_face", [0x1F31C]),
     ("last_quarter_moon_with_face", [0x1F31C]), ("last_track_button", [0x23EE]),
     ("latin_cross", [0x271D]), ("latvia", [0x1F1F1, 0x1F1FB]), ("laughing", [0x1F606]),
     ("leaf_fluttering_in_wind", [0x1F343]), ("leafy_green", [0x1F96C]), ("leaves", [0x1F343]),
     ("lebanon", [0x1F1F1, 0x1F1E7]), ("ledger", [0x1F4D2]), ("left-right_arrow", [0x2194]),
     ("left_arrow", [0x2B05]), ("left_arrow_curving_right", [0x21AA]), ("left_luggage", [0x1F6C5]),
     ("left_right_arrow", [0x2194]), ("left_speech_bubble", [0x1F5E8]),
     ("leftwards_arrow_with_hook", [0x21A9]), ("leg", [0x1F9B5]), ("lemon", [0x1F34B]),
     ("leo", [0x264C]), ("leopard", [0x1F406]), ("lesotho", [0x1F1F1, 0x1F1F8]),
     ("level_slider", [0x1F39A]), ("liberia", [0x1F1F1, 0x1F1F7]), ("libra", [0x264E]),
     ("libya", [0x1F1F1, 0x1F1FE]), ("liechtenstein", [0x1F1F1, 0x1F1EE]),
     ("light_bulb", [0x1F4A1]), ("light_rail", [0x1F688]), ("light_skin_tone", [0x1F3FB]),
     ("link", [0x1F517]), ("linked_paperclips", [0x1F587]), ("lion_face", [0x1F981]),
     ("lips", [0x1F444]), ("lipstick", [0x1F484]), ("lithuania", [0x1F1F1, 0x1F1F9]),
     ("litter_in_bin_sign", [0x1F6AE]), ("lizard", [0x1F98E]), ("llama", [0x1F999]),
     ("lobster", [0x1F99E]), ("lock", [0x1F512]), ("lock_with_ink_pen", [0x1F50F]),
     ("locked", [0x1F512]), ("locked_with_key", [0x1F510]), ("locked_with_pen", [0x1F50F]),
     ("locomotive", [0x1F682]), ("lollipop", [0x1F36D]), ("loop", [0x27BF]),
     ("lotion_bottle", [0x1F9F4]), ("loud_sound", [0x1F50A]), ("loudly_crying_face", [0x1F62D]),
     ("loudspeaker", [0x1F4E2]), ("love_hotel", [0x1F3E9]), ("love_letter", [0x1F48C]),
     ("low_brightness", [0x1F505]), ("lower_left_ballpoint_pen", [0x1F58A]),
     ("lower_left_crayon", [0x1F58D]), ("lower_left_fountain_pen", [0x1F58B]),
     ("lower_left_paintbrush", [0x1F58C]), ("luggage", [0x1F9F3]),
     ("luxembourg", [0x1F1F1, 0x1F1FA]), ("lying_face", [0x1F925])]),
   ('m',
    [("m", [0x24C2]), ("macau_sar_china", [0x1F1F2, 0x1F1F4]), ("macedonia", [0x1F1F2, 0x1F1F0]),
     ("madagascar", [0x1F1F2, 0x1F1EC]), ("mag", [0x1F50D]), ("mag_right", [0x1F50E]),
     ("magnet", [0x1F9F2]), ("magnifying_glass_tilted_left", [0x1F50D]),
     ("magnifying_glass_tilted_right", [0x1F50E]), ("mahjong", [0x1F004]),
     ("mahjong_red_dragon", [0x1F004]), ("mailbox", [0x1F4EB]), ("mailbox_closed", [0x1F4EA]),
     ("mailbox_with_mail", [0x1F4EC]), ("mailbox_with_no_mail", [0x1F4ED]),
     ("malawi", [0x1F1F2, 0x1F1FC]), ("malaysia", [0x1F1F2, 0x1F1FE]),
     ("maldives", [0x1F1F2, 0x1F1FB]), ("male_sign", [0x2642]), ("mali", [0x1F1F2, 0x1F1F1]),
     ("malta", [0x1F1F2, 0x1F1F9]), ("man_and_woman_holding_hands", [0x1F46B]),
     ("man_genie", [0x1F9DE, 0x200D, 0x2642, 0xFE0F]),
     ("man_in_business_suit_levitating", [0x1F574]),
     ("man_in_manual_wheelchair", [0x1F468, 0x200D, 0x1F9BD]),
     ("man_in_motorized_wheelchair", [0x1F468, 0x200D, 0x1F9BC]),
     ("man_with_gua_pi_mao", [0x1F472]), ("man_with_probing_cane", [0x1F468, 0x200D, 0x1F9AF]),
     ("man_with_turban", [0x1F473]), ("man_zombie", [0x1F9DF, 0x200D, 0x2642, 0xFE0F]),
     ("mango", [0x1F96D]), ("mans_shoe", [0x1F45E]), ("mantelpiece_clock", [0x1F570]),
     ("manual_wheelchair", [0x1F9BD]), ("map_of_japan", [0x1F5FE]), ("maple_leaf", [0x1F341]),
     ("marshall_islands", [0x1F1F2, 0x1F1ED]), ("martial_arts_uniform", [0x1F94B]),
     ("martinique", [0x1F1F2, 0x1F1F6]), ("mask", [0x1F637]), ("massage", [0x1F486]),
     ("mate", [0x1F9C9]), ("mauritania", [0x1F1F2, 0x1F1F7]), ("mauritius", [0x1F1F2, 0x1F1FA]),
     ("mayotte", [0x1F1FE, 0x1F1F9]), ("meat_on_bone", [0x1F356]), ("mechanical_arm", [0x1F9BE]),
     ("mechanical_leg", [0x1F9BF]), ("medical_symbol", [0x2695]),
     ("medium_dark_skin_tone", [0x1F3FE]), ("medium_light_skin_tone", [0x1F3FC]),
     ("medium_skin_tone", [0x1F3FD]), ("mega", [0x1F4E3]), ("megaphone", [0x1F4E3]),
     ("melon", [0x1F348]), ("memo", [0x1F4DD]),
     ("men_with_bunny_ears", [0x1F46F, 0x200D, 0x2642, 0xFE0F]),
     ("men_wrestling", [0x1F93C, 0x200D, 0x2642, 0xFE0F]), ("menorah", [0x1F54E]),
     ("menorah_with_nine_branches", [0x1F54E]), ("mens", [0x1F6B9]), ("metro", [0x1F687]),
     ("mexico", [0x1F1F2, 0x1F1FD]), ("microbe", [0x1F9A0]), ("micronesia", [0x1F1EB, 0x1F1F2]),
     ("microphone", [0x1F3A4]), ("microscope", [0x1F52C]), ("military_medal", [0x1F396]),
     ("milky_way", [0x1F30C]), ("minibus", [0x1F690]), ("minidisc", [0x1F4BD]),
     ("moai", [0x1F5FF]), ("mobile_phone", [0x1F4F1]), ("mobile_phone_off", [0x1F4F4]),
     ("mobile_phone_with_arrow", [0x1F4F2]), ("moldova", [0x1F1F2, 0x1F1E9]),
     ("monaco", [0x1F1F2, 0x1F1E8]), ("money-mouth_face", [0x1F911]),
     ("money__mouth_face", [0x1F911]), ("money_bag", [0x1F4B0]), ("money_with_wings", [0x1F4B8]),
     ("moneybag", [0x1F4B0]), ("mongolia", [0x1F1F2, 0x1F1F3]), ("monkey", [0x1F412]),
     ("monkey_face", [0x1F435]), ("monorail", [0x1F69D]), ("montenegro", [0x1F1F2, 0x1F1EA]),
     ("montserrat", [0x1F1F2, 0x1F1F8]), ("moon", [0x1F314]), ("moon_cake", [0x1F96E]),
     ("moon_viewing_ceremony", [0x1F391]), ("morocco", [0x1F1F2, 0x1F1E6]),
     ("mortar_board", [0x1F393]), ("mosque", [0x1F54C]), ("mosquito", [0x1F99F]),
     ("motor_boat", [0x1F6E5]), ("motor_scooter", [0x1F6F5]), ("motorcycle", [0x1F3CD]),
     ("motorized_wheelchair", [0x1F9BC]), ("motorway", [0x1F6E3]), ("mount_fuji", [0x1F5FB]),
     ("mountain", [0x26F0]), ("mountain_bicyclist", [0x1F6B5]), ("mountain_cableway", [0x1F6A0]),
     ("mountain_railway", [0x1F69E]), ("mouse", [0x1F42D]), ("mouse2", [0x1F401]),
     ("mouse_face", [0x1F42D]), ("mouth", [0x1F444]), ("movie_camera", [0x1F3A5]),
     ("moyai", [0x1F5FF]), ("mozambique", [0x1F1F2, 0x1F1FF]), ("muscle", [0x1F4AA]),
     ("mushroom", [0x1F344]), ("musical_keyboard", [0x1F3B9]), ("musical_note", [0x1F3B5]),
     ("musical_notes", [0x1F3B6]), ("musical_score", [0x1F3BC]), ("mute", [0x1F507]),
     ("muted_speaker", [0x1F507]), ("myanmar_(burma)", [0x1F1F2, 0x1F1F2])]),
   ('n',
    [("nail_care", [0x1F485]), ("name_badge", [0x1F4DB]), ("namibia", [0x1F1F3, 0x1F1E6]),
     ("national_park", [0x1F3DE]), ("nauru", [0x1F1F3, 0x1F1F7]), ("nauseated_face", [0x1F922]),
     ("nazar_amulet", [0x1F9FF]), ("necktie", [0x1F454]),
     ("negative_squared_cross_mark", [0x274E]), ("nepal", [0x1F1F3, 0x1F1F5]),
     ("nerd_face", [0x1F913]), ("netherlands", [0x1F1F3, 0x1F1F1]), ("neutral_face", [0x1F610]),
     ("new", [0x1F195]), ("new_button", [0x1F195]), ("new_caledonia", [0x1F1F3, 0x1F1E8]),
     ("new_moon", [0x1F311]), ("new_moon_face", [0x1F31A]), ("new_moon_with_face", [0x1F31A]),
     ("new_zealand", [0x1F1F3, 0x1F1FF]), ("newspaper", [0x1F4F0]),
     ("next_track_button", [0x23ED]), ("ng", [0x1F196]), ("ng_button", [0x1F196]),
     ("nicaragua", [0x1F1F3, 0x1F1EE]), ("niger", [0x1F1F3, 0x1F1EA]),
     ("nigeria", [0x1F1F3, 0x1F1EC]), ("night_with_stars", [0x1F303]),
     ("nine", [0x39, 0xFE0F, 0x20E3]), ("nine-thirty", [0x1F564]), ("niue", [0x1F1F3, 0x1F1FA]),
     ("no_bell", [0x1F515]), ("no_bicycles", [0x1F6B3]), ("no_entry", [0x26D4]),
     ("no_entry_sign", [0x1F6AB]), ("no_good", [0x1F645]), ("no_littering", [0x1F6AF]),
     ("no_mobile_phones", [0x1F4F5]), ("no_mouth", [0x1F636]),
     ("no_one_under_eighteen", [0x1F51E]), ("no_pedestrians", [0x1F6B7]),
     ("no_smoking", [0x1F6AD]), ("non-potable_water", [0x1F6B1]),
     ("non__potable_water", [0x1F6B1]), ("norfolk_island", [0x1F1F3, 0x1F1EB]),
     ("north_korea", [0x1F1F0, 0x1F1F5]), ("northern_mariana_islands", [0x1F1F2, 0x1F1F5]),
     ("norway", [0x1F1F3, 0x1F1F4]), ("notebook", [0x1F4D3]),
     ("notebook_with_decorative_cover", [0x1F4D4]), ("notes", [0x1F3B6]),
     ("nut_and_bolt", [0x1F529])]),
   ('o',
    [("o", [0x2B55]), ("o2", [0x1F17E]), ("o_button_(blood_type)", [0x1F17E]),
     ("ocean", [0x1F30A]), ("octopus", [0x1F419]), ("oden", [0x1F362]), ("office", [0x1F3E2]),
     ("office_building", [0x1F3E2]), ("ogre", [0x1F479]), ("oil_drum", [0x1F6E2]),
     ("ok", [0x1F197]), ("ok_button", [0x1F197]), ("ok_woman", [0x1F646]), ("old_key", [0x1F5DD]),
     ("older_man", [0x1F474]), ("older_woman", [0x1F475]), ("om", [0x1F549]),
     ("om_symbol", [0x1F549]), ("oman", [0x1F1F4, 0x1F1F2]), ("on", [0x1F51B]),
     ("on!_arrow", [0x1F51B]), ("oncoming_automobile", [0x1F698]), ("oncoming_bus", [0x1F68D]),
     ("oncoming_police_car", [0x1F694]), ("oncoming_taxi", [0x1F696]),
     ("one", [0x31, 0xFE0F, 0x20E3]), ("one-piece_swimsuit", [0x1FA71]), ("one-thirty", [0x1F55C]),
     ("onion", [0x1F9C5]), ("open_book", [0x1F4D6]), ("open_file_folder", [0x1F4C2]),
     ("open_mailbox_with_lowered_flag", [0x1F4ED]), ("open_mailbox_with_raised_flag", [0x1F4EC]),
     ("open_mouth", [0x1F62E]), ("ophiuchus", [0x26CE]), ("optical_disk", [0x1F4BF]),
     ("orange_book", [0x1F4D9]), ("orange_circle", [0x1F7E0]), ("orange_heart", [0x1F9E1]),
     ("orange_square", [0x1F7E7]), ("orangutan", [0x1F9A7]), ("orthodox_cross", [0x2626]),
     ("otter", [0x1F9A6]), ("outbox_tray", [0x1F4E4]), ("owl", [0x1F989]), ("ox", [0x1F402]),
     ("oyster", [0x1F9AA])]),
   ('p',
    [("p_button", [0x1F17F]), ("package", [0x1F4E6]), ("page_facing_up", [0x1F4C4]),
     ("page_with_curl", [0x1F4C3]), ("pager", [0x1F4DF]), ("paintbrush", [0x1F58C]),
     ("pakistan", [0x1F1F5, 0x1F1F0]), ("palau", [0x1F1F5, 0x1F1FC]),
     ("palestinian_territories", [0x1F1F5, 0x1F1F8]), ("palm_tree", [0x1F334]),
     ("panama", [0x1F1F5, 0x1F1E6]), ("pancakes", [0x1F95E]), ("panda_face", [0x1F43C]),
     ("paperclip", [0x1F4CE]), ("papua_new_guinea", [0x1F1F5, 0x1F1EC]),
     ("paraguay", [0x1F1F5, 0x1F1FE]), ("parking", [0x1F17F]), ("parrot", [0x1F99C]),
     ("part_alternation_mark", [0x303D]), ("partly_sunny", [0x26C5]), ("party_popper", [0x1F389]),
     ("partying_face", [0x1F973]), ("passenger_ship", [0x1F6F3]), ("passport_control", [0x1F6C2]),
     ("pause_button", [0x23F8]), ("paw_prints", [0x1F43E]), ("peace_symbol", [0x262E]),
     ("peach", [0x1F351]), ("peacock", [0x1F99A]), ("peanuts", [0x1F95C]), ("pear", [0x1F350]),
     ("pen", [0x1F58A]), ("pencil", [0x1F4DD]), ("pencil2", [0x270F]), ("penguin", [0x1F427]),
     ("pensive", [0x1F614]), ("pensive_face", [0x1F614]),
     ("people_holding_hands", [0x1F9D1, 0x200D, 0x1F91D, 0x200D, 0x1F9D1]),
     ("people_with_bunny_ears", [0x1F46F]), ("people_wrestling", [0x1F93C]),
     ("performing_arts", [0x1F3AD]), ("persevere", [0x1F623]), ("persevering_face", [0x1F623]),
     ("person_fencing", [0x1F93A]), ("person_kneeling", [0x1F9CE]), ("person_standing", [0x1F9CD]),
     ("person_with_ball", [0x26F9]), ("person_with_blond_hair", [0x1F471]),
     ("person_with_pouting_face", [0x1F64E]), ("peru", [0x1F1F5, 0x1F1EA]),
     ("petri_dish", [0x1F9EB]), ("philippines", [0x1F1F5, 0x1F1ED]), ("phone", [0x260E]),
     ("pick", [0x26CF]), ("pie", [0x1F967]), ("pig", [0x1F437]), ("pig2", [0x1F416]),
     ("pig_face", [0x1F437]), ("pig_nose", [0x1F43D]), ("pile_of_poo", [0x1F4A9]),
     ("pill", [0x1F48A]), ("pinching_hand", [0x1F90F]), ("pine_decoration", [0x1F38D]),
     ("pineapple", [0x1F34D]), ("ping_pong", [0x1F3D3]),
     ("pirate_flag", [0x1F3F4, 0x200D, 0x2620, 0xFE0F]), ("pisces", [0x2653]),
     ("pistol", [0x1F52B]), ("pitcairn_islands", [0x1F1F5, 0x1F1F3]), ("pizza", [0x1F355]),
     ("place_of_worship", [0x1F6D0]), ("play_button", [0x25B6]),
     ("play_or_pause_button", [0x23EF]), ("pleading_face", [0x1F97A]), ("point_down", [0x1F447]),
     ("point_left", [0x1F448]), ("point_right", [0x1F449]), ("point_up", [0x261D]),
     ("point_up_2", [0x1F446]), ("poland", [0x1F1F5, 0x1F1F1]), ("police_car", [0x1F693]),
     ("police_car_light", [0x1F6A8]), ("poodle", [0x1F429]), ("pool_8_ball", [0x1F3B1]),
     ("poop", [0x1F4A9]), ("popcorn", [0x1F37F]), ("portugal", [0x1F1F5, 0x1F1F9]),
     ("post_office", [0x1F3E3]), ("postal_horn", [0x1F4EF]), ("postbox", [0x1F4EE]),
     ("pot_of_food", [0x1F372]), ("potable_water", [0x1F6B0]), ("potato", [0x1F954]),
     ("pouch", [0x1F45D]), ("poultry_leg", [0x1F357]), ("pound", [0x1F4B7]),
     ("pound_banknote", [0x1F4B7]), ("pouting_cat", [0x1F63E]), ("pouting_cat_face", [0x1F63E]),
     ("pouting_face", [0x1F621]), ("pray", [0x1F64F]), ("prayer_beads", [0x1F4FF]),
     ("pretzel", [0x1F968]), ("printer", [0x1F5A8]), ("probing_cane", [0x1F9AF]),
     ("prohibited", [0x1F6AB]), ("puerto_rico", [0x1F1F5, 0x1F1F7]), ("punch", [0x1F44A]),
     ("purple_circle", [0x1F7E3]), ("purple_heart", [0x1F49C]), ("purple_square", [0x1F7EA]),
     ("purse", [0x1F45B]), ("pushpin", [0x1F4CC]), ("put_litter_in_its_place", [0x1F6AE])]),
   ('q', [("qatar", [0x1F1F6, 0x1F1E6]), ("question", [0x2753]), ("question_mark", [0x2753])]),
   ('r',
    [("rabbit", [0x1F430]), ("rabbit2", [0x1F407]), ("rabbit_face", [0x1F430]),
     ("raccoon", [0x1F99D]), ("racehorse", [0x1F40E]), ("racing_car", [0x1F3CE]),
     ("racing_motorcycle", [0x1F3CD]), ("radio", [0x1F4FB]), ("radio_button", [0x1F518]),
     ("radioactive", [0x2622]), ("radioactive_sign", [0x2622]), ("rage", [0x1F621]),
     ("railway_car", [0x1F683]), ("railway_track", [0x1F6E4]), ("rainbow", [0x1F308]),
     ("rainbow_flag", [0x1F3F3, 0xFE0F, 0x200D, 0x1F308]),
     ("raised_hand_with_fingers_splayed", [0x1F590]),
     ("raised_hand_with_part_between_middle_and_ring_fingers", [0x1F596]),
     ("raised_hands", [0x1F64C]), ("raising_hand", [0x1F64B]), ("ram", [0x1F40F]),
     ("ramen", [0x1F35C]), ("rat", [0x1F400]), ("razor", [0x1FA92]), ("receipt", [0x1F9FE]),
     ("record_button", [0x23FA]), ("recycle", [0x267B]), ("recycling_symbol", [0x267B]),
     ("red-haired_man", [0x1F468, 0x200D, 0x1F9B0]),
     ("red-haired_woman", [0x1F469, 0x200D, 0x1F9B0]), ("red_apple", [0x1F34E]),
     ("red_car", [0x1F697]), ("red_circle", [0x1F534]), ("red_envelope", [0x1F9E7]),
     ("red_hair", [0x1F9B0]), ("red_heart", [0x2764]), ("red_paper_lantern", [0x1F3EE]),
     ("red_square", [0x1F7E5]), ("red_triangle_pointed_down", [0x1F53B]),
     ("red_triangle_pointed_up", [0x1F53A]), ("regional_indicator_a", [0x1F1E6]),
     ("regional_indicator_b", [0x1F1E7]), ("regional_indicator_c", [0x1F1E8]),
     ("regional_indicator_d", [0x1F1E9]), ("regional_indicator_e", [0x1F1EA]),
     ("regional_indicator_f", [0x1F1EB]), ("regional_indicator_g", [0x1F1EC]),
     ("regional_indicator_h", [0x1F1ED]), ("regional_indicator_i", [0x1F1EE]),
     ("regional_indicator_j", [0x1F1EF]), ("regional_indicator_k", [0x1F1F0]),
     ("regional_indicator_l", [0x1F1F1]), ("regional_indicator_m", [0x1F1F2]),
     ("regional_indicator_n", [0x1F1F3]), ("regional_indicator_o", [0x1F1F4]),
     ("regional_indicator_p", [0x1F1F5]), ("regional_indicator_q", [0x1F1F6]),
     ("regional_indicator_r", [0x1F1F7]), ("regional_indicator_s", [0x1F1F8]),
     ("regional_indicator_symbol_letter_a", [0x1F1E6]),
     ("regional_indicator_symbol_letter_b", [0x1F1E7]),
     ("regional_indicator_symbol_letter_c", [0x1F1E8]),
     ("regional_indicator_symbol_letter_d", [0x1F1E9]),
     ("regional_indicator_symbol_letter_e", [0x1F1EA]),
     ("regional_indicator_symbol_letter_f", [0x1F1EB]),
     ("regional_indicator_symbol_letter_g", [0x1F1EC]),
     ("regional_indicator_symbol_letter_h", [0x1F1ED]),
     ("regional_indicator_symbol_letter_i", [0x1F1EE]),
     ("regional_indicator_symbol_letter_j", [0x1F1EF]),
     ("regional_indicator_symbol_letter_k", [0x1F1F0]),
     ("regional_indicator_symbol_letter_l", [0x1F1F1]),
     ("regional_indicator_symbol_letter_m", [0x1F1F2]),
     ("regional_indicator_symbol_letter_n", [0x1F1F3]),
     ("regional_indicator_symbol_letter_o", [0x1F1F4]),
     ("regional_indicator_symbol_letter_p", [0x1F1F5]),
     ("regional_indicator_symbol_letter_q", [0x1F1F6]),
     ("regional_indicator_symbol_letter_r", [0x1F1F7]),
     ("regional_indicator_symbol_letter_s", [0x1F1F8]),
     ("regional_indicator_symbol_letter_t", [0x1F1F9]),
     ("regional_indicator_symbol_letter_u", [0x1F1FA]),
     ("regional_indicator_symbol_letter_v", [0x1F1FB]),
     ("regional_indicator_symbol_letter_w", [0x1F1FC]),
     ("regional_indicator_symbol_letter_x", [0x1F1FD]),
     ("regional_indicator_symbol_letter_y", [0x1F1FE]),
     ("regional_indicator_symbol_letter_z", [0x1F1FF]), ("regional_indicator_t", [0x1F1F9]),
     ("regional_indicator_u", [0x1F1FA]), ("regional_indicator_v", [0x1F1FB]),
     ("regional_indicator_w", [0x1F1FC]), ("regional_indicator_x", [0x1F1FD]),
     ("regional_indicator_y", [0x1F1FE]), ("regional_indicator_z", [0x1F1FF]),
     ("registered", [0xAE]), ("relaxed", [0x263A]), ("relieved", [0x1F60C]),
     ("relieved_face", [0x1F60C]), ("reminder_ribbon", [0x1F397]), ("repeat", [0x1F501]),
     ("repeat_button", [0x1F501]), ("repeat_one", [0x1F502]), ("repeat_single_button", [0x1F502]),
     ("restroom", [0x1F6BB]), ("reverse_button", [0x25C0]),
     ("reversed_hand_with_middle_finger_extended", [0x1F595]), ("revolving_hearts", [0x1F49E]),
     ("rewind", [0x23EA]), ("rhinoceros", [0x1F98F]), ("ribbon", [0x1F380]), ("rice", [0x1F35A]),
     ("rice_ball", [0x1F359]), ("rice_cracker", [0x1F358]), ("rice_scene", [0x1F391]),
     ("right_anger_bubble", [0x1F5EF]), ("right_arrow", [0x27A1]),
     ("right_arrow_curving_down", [0x2935]), ("right_arrow_curving_left", [0x21A9]),
     ("right_arrow_curving_up", [0x2934]), ("ring", [0x1F48D]), ("ringed_planet", [0x1FA90]),
     ("roasted_sweet_potato", [0x1F360]), ("robot", [0x1F916]), ("robot_face", [0x1F916]),
     ("rocket", [0x1F680]), ("roll_of_paper", [0x1F9FB]), ("rolled-up_newspaper", [0x1F5DE]),
     ("rolled__up_newspaper", [0x1F5DE]), ("roller_coaster", [0x1F3A2]),
     ("rolling_on_the_floor_laughing", [0x1F923]), ("romania", [0x1F1F7, 0x1F1F4]),
     ("rooster", [0x1F413]), ("rose", [0x1F339]), ("rosette", [0x1F3F5]),
     ("rotating_light", [0x1F6A8]), ("round_pushpin", [0x1F4CD]), ("rowboat", [0x1F6A3]),
     ("rugby_football", [0x1F3C9]), ("runner", [0x1F3C3]), ("running", [0x1F3C3]),
     ("running_shirt", [0x1F3BD]), ("running_shirt_with_sash", [0x1F3BD]),
     ("running_shoe", [0x1F45F]), ("russia", [0x1F1F7, 0x1F1FA]), ("rwanda", [0x1F1F7, 0x1F1FC])]),
   ('s',
    [("sa", [0x1F202]), ("sad_but_relieved_face", [0x1F625]), ("safety_pin", [0x1F9F7]),
     ("safety_vest", [0x1F9BA]), ("sagittarius", [0x2650]), ("sailboat", [0x26F5]),
     ("sake", [0x1F376]), ("salt", [0x1F9C2]), ("samoa", [0x1F1FC, 0x1F1F8]),
     ("san_marino", [0x1F1F8, 0x1F1F2]), ("sandal", [0x1F461]), ("sandwich", [0x1F96A]),
     ("santa", [0x1F385]), ("sari", [0x1F97B]), ("satellite", [0x1F4E1]),
     ("satellite_antenna", [0x1F4E1]), ("satisfied", [0x1F606]),
     ("saudi_arabia", [0x1F1F8, 0x1F1E6]), ("sauropod", [0x1F995]), ("saxophone", [0x1F3B7]),
     ("scales", [0x2696]), ("scarf", [0x1F9E3]), ("school", [0x1F3EB]),
     ("school_backpack", [0x1F392]), ("school_satchel", [0x1F392]), ("scissors", [0x2702]),
     ("scorpio", [0x264F]), ("scorpion", [0x1F982]), ("scorpius", [0x264F]),
     ("scotland", [0x1F3F4, 0xE0067, 0xE0062, 0xE0073, 0xE0063, 0xE0074, 0xE007F]),
     ("scream", [0x1F631]), ("scream_cat", [0x1F640]), ("scroll", [0x1F4DC]), ("seat", [0x1F4BA]),
     ("secret", [0x3299]), ("see-no-evil_monkey", [0x1F648]), ("see_no_evil", [0x1F648]),
     ("seedling", [0x1F331]), ("senegal", [0x1F1F8, 0x1F1F3]), ("serbia", [0x1F1F7, 0x1F1F8]),
     ("service_dog", [0x1F415, 0x200D, 0x1F9BA]), ("seven", [0x37, 0xFE0F, 0x20E3]),
     ("seven-thirty", [0x1F562]), ("seychelles", [0x1F1F8, 0x1F1E8]),
     ("shallow_pan_of_food", [0x1F958]), ("shamrock", [0x2618]), ("shark", [0x1F988]),
     ("shaved_ice", [0x1F367]), ("sheaf_of_rice", [0x1F33E]), ("sheep", [0x1F411]),
     ("shell", [0x1F41A]), ("shield", [0x1F6E1]), ("shinto_shrine", [0x26E9]), ("ship", [0x1F6A2]),
     ("shirt", [0x1F455]), ("shit", [0x1F4A9]), ("shoe", [0x1F45E]), ("shooting_star", [0x1F320]),
     ("shopping_bags", [0x1F6CD]), ("shopping_cart", [0x1F6D2]), ("shortcake", [0x1F370]),
     ("shorts", [0x1FA73]), ("shower", [0x1F6BF]), ("shrimp", [0x1F990]),
     ("shuffle_tracks_button", [0x1F500]), ("shushing_face", [0x1F92B]),
     ("sierra_leone", [0x1F1F8, 0x1F1F1]), ("signal_strength", [0x1F4F6]),
     ("singapore", [0x1F1F8, 0x1F1EC]), ("sint_maarten", [0x1F1F8, 0x1F1FD]),
     ("six", [0x36, 0xFE0F, 0x20E3]), ("six-thirty", [0x1F561]), ("six_pointed_star", [0x1F52F]),
     ("skateboard", [0x1F6F9]), ("ski", [0x1F3BF]), ("skier", [0x26F7]), ("skis", [0x1F3BF]),
     ("skull", [0x1F480]), ("skull_and_crossbones", [0x2620]), ("skunk", [0x1F9A8]),
     ("sled", [0x1F6F7]), ("sleeping", [0x1F634]), ("sleeping_accommodation", [0x1F6CC]),
     ("sleeping_face", [0x1F634]), ("sleepy", [0x1F62A]), ("sleepy_face", [0x1F62A]),
     ("sleuth_or_spy", [0x1F575]), ("slightly_frowning_face", [0x1F641]),
     ("slightly_smiling_face", [0x1F642]), ("slot_machine", [0x1F3B0]), ("sloth", [0x1F9A5]),
     ("slovakia", [0x1F1F8, 0x1F1F0]), ("slovenia", [0x1F1F8, 0x1F1EE]),
     ("small_airplane", [0x1F6E9]), ("small_blue_diamond", [0x1F539]),
     ("small_orange_diamond", [0x1F538]), ("small_red_triangle", [0x1F53A]),
     ("small_red_triangle_down", [0x1F53B]), ("smile", [0x1F604]), ("smile_cat", [0x1F638]),
     ("smiley", [0x1F603]), ("smiley_cat", [0x1F63A]),
     ("smiling_cat_face_with_heart-eyes", [0x1F63B]), ("smiling_face", [0x263A]),
     ("smiling_face_with_3_hearts", [0x1F970]), ("smiling_face_with_halo", [0x1F607]),
     ("smiling_face_with_heart-eyes", [0x1F60D]), ("smiling_face_with_horns", [0x1F608]),
     ("smiling_face_with_smiling_eyes", [0x1F60A]), ("smiling_face_with_sunglasses", [0x1F60E]),
     ("smiling_imp", [0x1F608]), ("smirk", [0x1F60F]), ("smirk_cat", [0x1F63C]),
     ("smirking_face", [0x1F60F]), ("smoking", [0x1F6AC]), ("snail", [0x1F40C]),
     ("snake", [0x1F40D]), ("sneezing_face", [0x1F927]), ("snow-capped_mountain", [0x1F3D4]),
     ("snow_capped_mountain", [0x1F3D4]), ("snowflake", [0x2744]), ("snowman", [0x2603]),
     ("snowman_without_snow", [0x26C4]), ("soap", [0x1F9FC]), ("sob", [0x1F62D]),
     ("soccer", [0x26BD]), ("soccer_ball", [0x26BD]), ("socks", [0x1F9E6]),
     ("soft_ice_cream", [0x1F366]), ("softball", [0x1F94E]),
     ("solomon_islands", [0x1F1F8, 0x1F1E7]), ("somalia", [0x1F1F8, 0x1F1F4]), ("soon", [0x1F51C]),
     ("soon_arrow", [0x1F51C]), ("sos", [0x1F198]), ("sos_button", [0x1F198]),
     ("sound", [0x1F509]), ("south_africa", [0x1F1FF, 0x1F1E6]),
     ("south_georgia_&_south_sandwich_islands", [0x1F1EC, 0x1F1F8]),
     ("south_korea", [0x1F1F0, 0x1F1F7]), ("south_sudan", [0x1F1F8, 0x1F1F8]),
     ("space_invader", [0x1F47E]), ("spade_suit", [0x2660]), ("spades", [0x2660]),
     ("spaghetti", [0x1F35D]), ("spain", [0x1F1EA, 0x1F1F8]), ("sparkle", [0x2747]),
     ("sparkler", [0x1F387]), ("sparkles", [0x2728]), ("sparkling_heart", [0x1F496]),
     ("speak-no-evil_monkey", [0x1F64A]), ("speak_no_evil", [0x1F64A]), ("speaker", [0x1F508]),
     ("speaker_high_volume", [0x1F50A]), ("speaker_low_volume", [0x1F508]),
     ("speaker_medium_volume", [0x1F509]), ("speaking_head", [0x1F5E3]),
     ("speaking_head_in_silhouette", [0x1F5E3]), ("speech_balloon", [0x1F4AC]),
     ("speedboat", [0x1F6A4]), ("spider", [0x1F577]), ("spider_web", [0x1F578]),
     ("spiral_calendar", [0x1F5D3]), ("spiral_calendar_pad", [0x1F5D3]),
     ("spiral_note_pad", [0x1F5D2]), ("spiral_notepad", [0x1F5D2]), ("spiral_shell", [0x1F41A]),
     ("sponge", [0x1F9FD]), ("spoon", [0x1F944]), ("sport_utility_vehicle", [0x1F699]),
     ("sports_medal", [0x1F3C5]), ("spouting_whale", [0x1F433]), ("squid", [0x1F991]),
     ("squinting_face_with_tongue", [0x1F61D]), ("sri_lanka", [0x1F1F1, 0x1F1F0]),
     ("st._helena", [0x1F1F8, 0x1F1ED]), ("st._kitts_&_nevis", [0x1F1F0, 0x1F1F3]),
     ("st._lucia", [0x1F1F1, 0x1F1E8]), ("st._martin", [0x1F1F2, 0x1F1EB]),
     ("st._pierre_&_miquelon", [0x1F1F5, 0x1F1F2]),
     ("st._vincent_&_grenadines", [0x1F1FB, 0x1F1E8]), ("stadium", [0x1F3DF]), ("star", [0x2B50]),
     ("star-struck", [0x1F929]), ("star2", [0x1F31F]), ("star_and_crescent", [0x262A]),
     ("star_of_david", [0x2721]), ("stars", [0x1F320]), ("station", [0x1F689]),
     ("statue_of_liberty", [0x1F5FD]), ("steam_locomotive", [0x1F682]),
     ("steaming_bowl", [0x1F35C]), ("stethoscope", [0x1FA7A]), ("stew", [0x1F372]),
     ("stop_button", [0x23F9]), ("stop_sign", [0x1F6D1]), ("stopwatch", [0x23F1]),
     ("straight_ruler", [0x1F4CF]), ("strawberry", [0x1F353]), ("stuck_out_tongue", [0x1F61B]),
     ("stuck_out_tongue_closed_eyes", [0x1F61D]), ("stuck_out_tongue_winking_eye", [0x1F61C]),
     ("studio_microphone", [0x1F399]), ("stuffed_flatbread", [0x1F959]),
     ("sudan", [0x1F1F8, 0x1F1E9]), ("sun", [0x2600]), ("sun_behind_cloud", [0x26C5]),
     ("sun_behind_large_cloud", [0x1F325]), ("sun_behind_rain_cloud", [0x1F326]),
     ("sun_behind_small_cloud", [0x1F324]), ("sun_with_face", [0x1F31E]), ("sunflower", [0x1F33B]),
     ("sunglasses", [0x1F60E]), ("sunny", [0x2600]), ("sunrise", [0x1F305]),
     ("sunrise_over_mountains", [0x1F304]), ("sunset", [0x1F307]), ("superhero", [0x1F9B8]),
     ("supervillain", [0x1F9B9]), ("surfer", [0x1F3C4]), ("suriname", [0x1F1F8, 0x1F1F7]),
     ("sushi", [0x1F363]), ("suspension_railway", [0x1F69F]),
     ("svalbard_&_jan_mayen", [0x1F1F8, 0x1F1EF]), ("swan", [0x1F9A2]),
     ("swaziland", [0x1F1F8, 0x1F1FF]), ("sweat", [0x1F613]), ("sweat_droplets", [0x1F4A6]),
     ("sweat_drops", [0x1F4A6]), ("sweat_smile", [0x1F605]), ("sweden", [0x1F1F8, 0x1F1EA]),
     ("sweet_potato", [0x1F360]), ("swimmer", [0x1F3CA]), ("switzerland", [0x1F1E8, 0x1F1ED]),
     ("symbols", [0x1F523]), ("synagogue", [0x1F54D]), ("syria", [0x1F1F8, 0x1F1FE]),
     ("syringe", [0x1F489])]),
   ('t',
    [("t-rex", [0x1F996]), ("t-shirt", [0x1F455]), ("table_tennis_paddle_and_ball", [0x1F3D3]),
     ("taco", [0x1F32E]), ("tada", [0x1F389]), ("taiwan", [0x1F1F9, 0x1F1FC]),
     ("tajikistan", [0x1F1F9, 0x1F1EF]), ("takeout_box", [0x1F961]), ("tanabata_tree", [0x1F38B]),
     ("tangerine", [0x1F34A]), ("tanzania", [0x1F1F9, 0x1F1FF]), ("taurus", [0x2649]),
     ("taxi", [0x1F695]), ("tea", [0x1F375]), ("teacup_without_handle", [0x1F375]),
     ("tear-off_calendar", [0x1F4C6]), ("teddy_bear", [0x1F9F8]), ("telephone", [0x260E]),
     ("telephone_receiver", [0x1F4DE]), ("telescope", [0x1F52D]), ("television", [0x1F4FA]),
     ("ten", [0x1F51F]), ("ten-thirty", [0x1F565]), ("tennis", [0x1F3BE]), ("tent", [0x26FA]),
     ("test_tube", [0x1F9EA]), ("thailand", [0x1F1F9, 0x1F1ED]), ("thermometer", [0x1F321]),
     ("thinking_face", [0x1F914]), ("thought_balloon", [0x1F4AD]), ("thread", [0x1F9F5]),
     ("three", [0x33, 0xFE0F, 0x20E3]), ("three-thirty", [0x1F55E]),
     ("three_button_mouse", [0x1F5B1]), ("thumbsdown", [0x1F44E]), ("thumbsup", [0x1F44D]),
     ("thunder_cloud_and_rain", [0x26C8]), ("ticket", [0x1F3AB]), ("tiger", [0x1F42F]),
     ("tiger2", [0x1F405]), ("tiger_face", [0x1F42F]), ("timer_clock", [0x23F2]),
     ("timor-leste", [0x1F1F9, 0x1F1F1]), ("tired_face", [0x1F62B]), ("tm", [0x2122]),
     ("togo", [0x1F1F9, 0x1F1EC]), ("toilet", [0x1F6BD]), ("tokelau", [0x1F1F9, 0x1F1F0]),
     ("tokyo_tower", [0x1F5FC]), ("tomato", [0x1F345]), ("tonga", [0x1F1F9, 0x1F1F4]),
     ("tongue", [0x1F445]), ("toolbox", [0x1F9F0]), ("tooth", [0x1F9B7]), ("top", [0x1F51D]),
     ("top_arrow", [0x1F51D]), ("top_hat", [0x1F3A9]), ("tophat", [0x1F3A9]),
     ("tornado", [0x1F32A]), ("trackball", [0x1F5B2]), ("tractor", [0x1F69C]),
     ("trade_mark", [0x2122]), ("traffic_light", [0x1F6A5]), ("train", [0x1F68B]),
     ("train2", [0x1F686]), ("tram", [0x1F68A]), ("tram_car", [0x1F68B]),
     ("triangular_flag", [0x1F6A9]), ("triangular_flag_on_post", [0x1F6A9]),
     ("triangular_ruler", [0x1F4D0]), ("trident", [0x1F531]), ("trident_emblem", [0x1F531]),
     ("trinidad_&_tobago", [0x1F1F9, 0x1F1F9]), ("tristan_da_cunha", [0x1F1F9, 0x1F1E6]),
     ("triumph", [0x1F624]), ("trolleybus", [0x1F68E]), ("trophy", [0x1F3C6]),
     ("tropical_drink", [0x1F379]), ("tropical_fish", [0x1F420]), ("truck", [0x1F69A]),
     ("trumpet", [0x1F3BA]), ("tshirt", [0x1F455]), ("tulip", [0x1F337]),
     ("tumbler_glass", [0x1F943]), ("tunisia", [0x1F1F9, 0x1F1F3]), ("turkey", [0x1F983]),
     ("turkmenistan", [0x1F1F9, 0x1F1F2]), ("turks_&_caicos_islands", [0x1F1F9, 0x1F1E8]),
     ("turtle", [0x1F422]), ("tuvalu", [0x1F1F9, 0x1F1FB]), ("tv", [0x1F4FA]),
     ("twelve-thirty", [0x1F567]), ("twisted_rightwards_arrows", [0x1F500]),
     ("two", [0x32, 0xFE0F, 0x20E3]), ("two-hump_camel", [0x1F42B]), ("two-thirty", [0x1F55D]),
     ("two_hearts", [0x1F495]), ("two_men_holding_hands", [0x1F46C]),
     ("two_women_holding_hands", [0x1F46D])]),
   ('u',
    [("u.s._outlying_islands", [0x1F1FA, 0x1F1F2]), ("u.s._virgin_islands", [0x1F1FB, 0x1F1EE]),
     ("u5272", [0x1F239]), ("u5408", [0x1F234]), ("u55b6", [0x1F23A]), ("u6307", [0x1F22F]),
     ("u6708", [0x1F237]), ("u6709", [0x1F236]), ("u6e80", [0x1F235]), ("u7121", [0x1F21A]),
     ("u7533", [0x1F238]), ("u7981", [0x1F232]), ("u7a7a", [0x1F233]),
     ("uganda", [0x1F1FA, 0x1F1EC]), ("ukraine", [0x1F1FA, 0x1F1E6]), ("umbrella", [0x2602]),
     ("umbrella_on_ground", [0x26F1]), ("umbrella_with_rain_drops", [0x2614]),
     ("unamused", [0x1F612]), ("unamused_face", [0x1F612]), ("underage", [0x1F51E]),
     ("unicorn_face", [0x1F984]), ("united_arab_emirates", [0x1F1E6, 0x1F1EA]),
     ("united_kingdom", [0x1F1EC, 0x1F1E7]), ("united_nations", [0x1F1FA, 0x1F1F3]),
     ("united_states", [0x1F1FA, 0x1F1F8]), ("unlock", [0x1F513]), ("unlocked", [0x1F513]),
     ("up", [0x1F199]), ("up!_button", [0x1F199]), ("up-down_arrow", [0x2195]),
     ("up-left_arrow", [0x2196]), ("up-right_arrow", [0x2197]), ("up_arrow", [0x2B06]),
     ("upside-down_face", [0x1F643]), ("upside__down_face", [0x1F643]),
     ("upwards_button", [0x1F53C]), ("uruguay", [0x1F1FA, 0x1F1FE]),
     ("uzbekistan", [0x1F1FA, 0x1F1FF])]),
   ('v',
    [("v", [0x270C]), ("vanuatu", [0x1F1FB, 0x1F1FA]), ("vatican_city", [0x1F1FB, 0x1F1E6]),
     ("venezuela", [0x1F1FB, 0x1F1EA]), ("vertical_traffic_light", [0x1F6A6]), ("vhs", [0x1F4FC]),
     ("vibration_mode", [0x1F4F3]), ("video_camera", [0x1F4F9]), ("video_game", [0x1F3AE]),
     ("videocassette", [0x1F4FC]), ("vietnam", [0x1F1FB, 0x1F1F3]), ("violin", [0x1F3BB]),
     ("virgo", [0x264D]), ("volcano", [0x1F30B]), ("volleyball", [0x1F3D0]), ("vs", [0x1F19A]),
     ("vs_button", [0x1F19A])]),
   ('w',
    [("waffle", [0x1F9C7]),
     ("wales", [0x1F3F4, 0xE0067, 0xE0062, 0xE0077, 0xE006C, 0xE0073, 0xE007F]),
     ("walking", [0x1F6B6]), ("wallis_&_futuna", [0x1F1FC, 0x1F1EB]),
     ("waning_crescent_moon", [0x1F318]), ("waning_gibbous_moon", [0x1F316]),
     ("warning", [0x26A0]), ("wastebasket", [0x1F5D1]), ("watch", [0x231A]),
     ("water_buffalo", [0x1F403]), ("water_closet", [0x1F6BE]), ("water_wave", [0x1F30A]),
     ("watermelon", [0x1F349]), ("wave", [0x1F44B]), ("waving_black_flag", [0x1F3F4]),
     ("waving_white_flag", [0x1F3F3]), ("wavy_dash", [0x3030]),
     ("waxing_crescent_moon", [0x1F312]), ("waxing_gibbous_moon", [0x1F314]), ("wc", [0x1F6BE]),
     ("weary", [0x1F629]), ("weary_cat_face", [0x1F640]), ("weary_face", [0x1F629]),
     ("wedding", [0x1F492]), ("weight_lifter", [0x1F3CB]), ("western_sahara", [0x1F1EA, 0x1F1ED]),
     ("whale", [0x1F433]), ("whale2", [0x1F40B]), ("wheel_of_dharma", [0x2638]),
     ("wheelchair", [0x267F]), ("wheelchair_symbol", [0x267F]),
     ("white-haired_man", [0x1F468, 0x200D, 0x1F9B3]),
     ("white-haired_woman", [0x1F469, 0x200D, 0x1F9B3]), ("white_check_mark", [0x2705]),
     ("white_circle", [0x26AA]), ("white_exclamation_mark", [0x2755]), ("white_flag", [0x1F3F3]),
     ("white_flower", [0x1F4AE]), ("white_frowning_face", [0x2639]), ("white_hair", [0x1F9B3]),
     ("white_heart", [0x1F90D]), ("white_heavy_check_mark", [0x2705]),
     ("white_large_square", [0x2B1C]), ("white_medium-small_square", [0x25FD]),
     ("white_medium_small_square", [0x25FD]), ("white_medium_square", [0x25FB]),
     ("white_medium_star", [0x2B50]), ("white_question_mark", [0x2754]),
     ("white_small_square", [0x25AB]), ("white_square_button", [0x1F533]),
     ("white_sun_behind_cloud", [0x1F325]), ("white_sun_behind_cloud_with_rain", [0x1F326]),
     ("white_sun_with_small_cloud", [0x1F324]), ("wilted_flower", [0x1F940]),
     ("wind_blowing_face", [0x1F32C]), ("wind_chime", [0x1F390]), ("wind_face", [0x1F32C]),
     ("wine_glass", [0x1F377]), ("wink", [0x1F609]), ("winking_face", [0x1F609]),
     ("winking_face_with_tongue", [0x1F61C]), ("wolf", [0x1F43A]), ("wolf_face", [0x1F43A]),
     ("woman_genie", [0x1F9DE, 0x200D, 0x2640, 0xFE0F]),
     ("woman_in_manual_wheelchair", [0x1F469, 0x200D, 0x1F9BD]),
     ("woman_in_motorized_wheelchair", [0x1F469, 0x200D, 0x1F9BC]),
     ("woman_with_probing_cane", [0x1F469, 0x200D, 0x1F9AF]),
     ("woman_zombie", [0x1F9DF, 0x200D, 0x2640, 0xFE0F]), ("womans_clothes", [0x1F45A]),
     ("womans_hat", [0x1F452]), ("women_with_bunny_ears", [0x1F46F, 0x200D, 0x2640, 0xFE0F]),
     ("women_wrestling", [0x1F93C, 0x200D, 0x2640, 0xFE0F]), ("womens", [0x1F6BA]),
     ("woozy_face", [0x1F974]), ("world_map", [0x1F5FA]), ("worried", [0x1F61F]),
     ("worried_face", [0x1F61F]), ("wrapped_gift", [0x1F381]), ("wrench", [0x1F527])]),
   ('x', [("x", [0x274C])]),
   ('y',
    [("yarn", [0x1F9F6]), ("yawning_face", [0x1F971]), ("yellow_circle", [0x1F7E1]),
     ("yellow_heart", [0x1F49B]), ("yellow_square", [0x1F7E8]), ("yemen", [0x1F1FE, 0x1F1EA]),
     ("yen", [0x1F4B4]), ("yen_banknote", [0x1F4B4]), ("yin_yang", [0x262F]), ("yo-yo", [0x1FA80]),
     ("yum", [0x1F60B])]),
   ('z',
    [("zambia", [0x1F1FF, 0x1F1F2]), ("zany_face", [0x1F92A]), ("zap", [0x26A1]),
     ("zebra", [0x1F993]), ("zero", [0x30, 0xFE0F, 0x20E3]), ("zimbabwe", [0x1F1FF, 0x1F1FC]),
     ("zipper-mouth_face", [0x1F910]), ("zipper__mouth_face", [0x1F910]), ("zombie", [0x1F9DF]),
     ("zzz", [0x1F4A4])])]

/-- The names of pictographs that come in skin tones, too. -/
def tonedNames : Index :=
  [('a', [("adult", [0x1F9D1])]),
   ('b',
    [("baby", [0x1F476]), ("baby_angel", [0x1F47C]), ("backhand_index_pointing_down", [0x1F447]),
     ("backhand_index_pointing_left", [0x1F448]), ("backhand_index_pointing_right", [0x1F449]),
     ("backhand_index_pointing_up", [0x1F446]), ("bearded_person", [0x1F9D4]),
     ("blond-haired_man", [0x1F471, 0x200D, 0x2642, 0xFE0F]), ("blond-haired_person", [0x1F471]),
     ("blond-haired_woman", [0x1F471, 0x200D, 0x2640, 0xFE0F]), ("boy", [0x1F466]),
     ("breast-feeding", [0x1F931]), ("bride_with_veil", [0x1F470])]),
   ('c',
    [("call_me_hand", [0x1F919]), ("child", [0x1F9D2]), ("clapping_hands", [0x1F44F]),
     ("construction_worker", [0x1F477]), ("crossed_fingers", [0x1F91E])]),
   ('d', [("detective", [0x1F575])]),
   ('e', [("ear", [0x1F442]), ("elf", [0x1F9DD])]),
   ('f', [("fairy", [0x1F9DA]), ("flexed_biceps", [0x1F4AA]), ("folded_hands", [0x1F64F])]),
   ('g', [("girl", [0x1F467]), ("guard", [0x1F482])]),
   ('h', [("hand_with_fingers_splayed", [0x1F590]), ("horse_racing", [0x1F3C7])]),
   ('i', [("index_pointing_up", [0x261D])]),
   ('l', [("left-facing_fist", [0x1F91B]), ("love-you_gesture", [0x1F91F])]),
   ('m',
    [("mage", [0x1F9D9]), ("man", [0x1F468]), ("man_artist", [0x1F468, 0x200D, 0x1F3A8]),
     ("man_astronaut", [0x1F468, 0x200D, 0x1F680]),
     ("man_biking", [0x1F6B4, 0x200D, 0x2642, 0xFE0F]),
     ("man_bouncing_ball", [0x26F9, 0xFE0F, 0x200D, 0x2642, 0xFE0F]),
     ("man_bowing", [0x1F647, 0x200D, 0x2642, 0xFE0F]),
     ("man_cartwheeling", [0x1F938, 0x200D, 0x2642, 0xFE0F]),
     ("man_climbing", [0x1F9D7, 0x200D, 0x2642, 0xFE0F]),
     ("man_construction_worker", [0x1F477, 0x200D, 0x2642, 0xFE0F]),
     ("man_cook", [0x1F468, 0x200D, 0x1F373]), ("man_dancing", [0x1F57A]),
     ("man_detective", [0x1F575, 0xFE0F, 0x200D, 0x2642, 0xFE0F]),
     ("man_elf", [0x1F9DD, 0x200D, 0x2642, 0xFE0F]),
     ("man_facepalming", [0x1F926, 0x200D, 0x2642, 0xFE0F]),
     ("man_factory_worker", [0x1F468, 0x200D, 0x1F3ED]),
     ("man_fairy", [0x1F9DA, 0x200D, 0x2642, 0xFE0F]), ("man_farmer", [0x1F468, 0x200D, 0x1F33E]),
     ("man_firefighter", [0x1F468, 0x200D, 0x1F692]),
     ("man_frowning", [0x1F64D, 0x200D, 0x2642, 0xFE0F]),
     ("man_gesturing_no", [0x1F645, 0x200D, 0x2642, 0xFE0F]),
     ("man_gesturing_ok", [0x1F646, 0x200D, 0x2642, 0xFE0F]),
     ("man_getting_haircut", [0x1F487, 0x200D, 0x2642, 0xFE0F]),
     ("man_getting_massage", [0x1F486, 0x200D, 0x2642, 0xFE0F]),
     ("man_golfing", [0x1F3CC, 0xFE0F, 0x200D, 0x2642, 0xFE0F]),
     ("man_guard", [0x1F482, 0x200D, 0x2642, 0xFE0F]),
     ("man_health_worker", [0x1F468, 0x200D, 0x2695, 0xFE0F]),
     ("man_in_lotus_position", [0x1F9D8, 0x200D, 0x2642, 0xFE0F]),
     ("man_in_steamy_room", [0x1F9D6, 0x200D, 0x2642, 0xFE0F]),
     ("man_in_suit_levitating", [0x1F574]), ("man_in_tuxedo", [0x1F935]),
     ("man_judge", [0x1F468, 0x200D, 0x2696, 0xFE0F]),
     ("man_juggling", [0x1F939, 0x200D, 0x2642, 0xFE0F]),
     ("man_lifting_weights", [0x1F3CB, 0xFE0F, 0x200D, 0x2642, 0xFE0F]),
     ("man_mage", [0x1F9D9, 0x200D, 0x2642, 0xFE0F]), ("man_mechanic", [0x1F468, 0x200D, 0x1F527]),
     ("man_mountain_biking", [0x1F6B5, 0x200D, 0x2642, 0xFE0F]),
     ("man_office_worker", [0x1F468, 0x200D, 0x1F4BC]),
     ("man_pilot", [0x1F468, 0x200D, 0x2708, 0xFE0F]),
     ("man_playing_handball", [0x1F93E, 0x200D, 0x2642, 0xFE0F]),
     ("man_playing_water_polo", [0x1F93D, 0x200D, 0x2642, 0xFE0F]),
     ("man_police_officer", [0x1F46E, 0x200D, 0x2642, 0xFE0F]),
     ("man_pouting", [0x1F64E, 0x200D, 0x2642, 0xFE0F]),
     ("man_raising_hand", [0x1F64B, 0x200D, 0x2642, 0xFE0F]),
     ("man_rowing_boat", [0x1F6A3, 0x200D, 0x2642, 0xFE0F]),
     ("man_running", [0x1F3C3, 0x200D, 0x2642, 0xFE0F]),
     ("man_scientist", [0x1F468, 0x200D, 0x1F52C]),
     ("man_shrugging", [0x1F937, 0x200D, 0x2642, 0xFE0F]),
     ("man_singer", [0x1F468, 0x200D, 0x1F3A4]), ("man_student", [0x1F468, 0x200D, 0x1F393]),
     ("man_surfing", [0x1F3C4, 0x200D, 0x2642, 0xFE0F]),
     ("man_swimming", [0x1F3CA, 0x200D, 0x2642, 0xFE0F]),
     ("man_teacher", [0x1F468, 0x200D, 0x1F3EB]), ("man_technologist", [0x1F468, 0x200D, 0x1F4BB]),
     ("man_tipping_hand", [0x1F481, 0x200D, 0x2642, 0xFE0F]),
     ("man_vampire", [0x1F9DB, 0x200D, 0x2642, 0xFE0F]),
     ("man_walking", [0x1F6B6, 0x200D, 0x2642, 0xFE0F]),
     ("man_wearing_turban", [0x1F473, 0x200D, 0x2642, 0xFE0F]),
     ("man_with_chinese_cap", [0x1F472]), ("mermaid", [0x1F9DC, 0x200D, 0x2640, 0xFE0F]),
     ("merman", [0x1F9DC, 0x200D, 0x2642, 0xFE0F]), ("merperson", [0x1F9DC]),
     ("middle_finger", [0x1F595]), ("mrs._claus", [0x1F936])]),
   ('n', [("nail_polish", [0x1F485]), ("nose", [0x1F443])]),
   ('o',
    [("ok_hand", [0x1F44C]), ("old_man", [0x1F474]), ("old_woman", [0x1F475]),
     ("older_adult", [0x1F9D3]), ("oncoming_fist", [0x1F44A]), ("open_hands", [0x1F450])]),
   ('p',
    [("palms_up_together", [0x1F932]), ("person_biking", [0x1F6B4]),
     ("person_bouncing_ball", [0x26F9]), ("person_bowing", [0x1F647]),
     ("person_cartwheeling", [0x1F938]), ("person_climbing", [0x1F9D7]),
     ("person_facepalming", [0x1F926]), ("person_frowning", [0x1F64D]),
     ("person_gesturing_no", [0x1F645]), ("person_gesturing_ok", [0x1F646]),
     ("person_getting_haircut", [0x1F487]), ("person_getting_massage", [0x1F486]),
     ("person_golfing", [0x1F3CC]), ("person_in_bed", [0x1F6CC]),
     ("person_in_lotus_position", [0x1F9D8]), ("person_in_steamy_room", [0x1F9D6]),
     ("person_juggling", [0x1F939]), ("person_lifting_weights", [0x1F3CB]),
     ("person_mountain_biking", [0x1F6B5]), ("person_playing_handball", [0x1F93E]),
     ("person_playing_water_polo", [0x1F93D]), ("person_pouting", [0x1F64E]),
     ("person_raising_hand", [0x1F64B]), ("person_rowing_boat", [0x1F6A3]),
     ("person_running", [0x1F3C3]), ("person_shrugging", [0x1F937]), ("person_surfing", [0x1F3C4]),
     ("person_swimming", [0x1F3CA]), ("person_taking_bath", [0x1F6C0]),
     ("person_tipping_hand", [0x1F481]), ("person_walking", [0x1F6B6]),
     ("person_wearing_turban", [0x1F473]), ("police_officer", [0x1F46E]),
     ("pregnant_woman", [0x1F930]), ("prince", [0x1F934]), ("princess", [0x1F478])]),
   ('r',
    [("raised_back_of_hand", [0x1F91A]), ("raised_fist", [0x270A]), ("raised_hand", [0x270B]),
     ("raising_hands", [0x1F64C]), ("right-facing_fist", [0x1F91C])]),
   ('s',
    [("santa_claus", [0x1F385]), ("selfie", [0x1F933]), ("sign_of_the_horns", [0x1F918]),
     ("snowboarder", [0x1F3C2])]),
   ('t', [("thumbs_down", [0x1F44E]), ("thumbs_up", [0x1F44D])]),
   ('v', [("vampire", [0x1F9DB]), ("victory_hand", [0x270C]), ("vulcan_salute", [0x1F596])]),
   ('w',
    [("waving_hand", [0x1F44B]), ("woman", [0x1F469]),
     ("woman_artist", [0x1F469, 0x200D, 0x1F3A8]), ("woman_astronaut", [0x1F469, 0x200D, 0x1F680]),
     ("woman_biking", [0x1F6B4, 0x200D, 0x2640, 0xFE0F]),
     ("woman_bouncing_ball", [0x26F9, 0xFE0F, 0x200D, 0x2640, 0xFE0F]),
     ("woman_bowing", [0x1F647, 0x200D, 0x2640, 0xFE0F]),
     ("woman_cartwheeling", [0x1F938, 0x200D, 0x2640, 0xFE0F]),
     ("woman_climbing", [0x1F9D7, 0x200D, 0x2640, 0xFE0F]),
     ("woman_construction_worker", [0x1F477, 0x200D, 0x2640, 0xFE0F]),
     ("woman_cook", [0x1F469, 0x200D, 0x1F373]), ("woman_dancing", [0x1F483]),
     ("woman_detective", [0x1F575, 0xFE0F, 0x200D, 0x2640, 0xFE0F]),
     ("woman_elf", [0x1F9DD, 0x200D, 0x2640, 0xFE0F]),
     ("woman_facepalming", [0x1F926, 0x200D, 0x2640, 0xFE0F]),
     ("woman_factory_worker", [0x1F469, 0x200D, 0x1F3ED]),
     ("woman_fairy", [0x1F9DA, 0x200D, 0x2640, 0xFE0F]),
     ("woman_farmer", [0x1F469, 0x200D, 0x1F33E]),
     ("woman_firefighter", [0x1F469, 0x200D, 0x1F692]),
     ("woman_frowning", [0x1F64D, 0x200D, 0x2640, 0xFE0F]),
     ("woman_gesturing_no", [0x1F645, 0x200D, 0x2640, 0xFE0F]),
     ("woman_gesturing_ok", [0x1F646, 0x200D, 0x2640, 0xFE0F]),
     ("woman_getting_haircut", [0x1F487, 0x200D, 0x2640, 0xFE0F]),
     ("woman_getting_massage", [0x1F486, 0x200D, 0x2640, 0xFE0F]),
     ("woman_golfing", [0x1F3CC, 0xFE0F, 0x200D, 0x2640, 0xFE0F]),
     ("woman_guard", [0x1F482, 0x200D, 0x2640, 0xFE0F]),
     ("woman_health_worker", [0x1F469, 0x200D, 0x2695, 0xFE0F]),
     ("woman_in_lotus_position", [0x1F9D8, 0x200D, 0x2640, 0xFE0F]),
     ("woman_in_steamy_room", [0x1F9D6, 0x200D, 0x2640, 0xFE0F]),
     ("woman_judge", [0x1F469, 0x200D, 0x2696, 0xFE0F]),
     ("woman_juggling", [0x1F939, 0x200D, 0x2640, 0xFE0F]),
     ("woman_lifting_weights", [0x1F3CB, 0xFE0F, 0x200D, 0x2640, 0xFE0F]),
     ("woman_mage", [0x1F9D9, 0x200D, 0x2640, 0xFE0F]),
     ("woman_mechanic", [0x1F469, 0x200D, 0x1F527]),
     ("woman_mountain_biking", [0x1F6B5, 0x200D, 0x2640, 0xFE0F]),
     ("woman_office_worker", [0x1F469, 0x200D, 0x1F4BC]),
     ("woman_pilot", [0x1F469, 0x200D, 0x2708, 0xFE0F]),
     ("woman_playing_handball", [0x1F93E, 0x200D, 0x2640, 0xFE0F]),
     ("woman_playing_water_polo", [0x1F93D, 0x200D, 0x2640, 0xFE0F]),
     ("woman_police_officer", [0x1F46E, 0x200D, 0x2640, 0xFE0F]),
     ("woman_pouting", [0x1F64E, 0x200D, 0x2640, 0xFE0F]),
     ("woman_raising_hand", [0x1F64B, 0x200D, 0x2640, 0xFE0F]),
     ("woman_rowing_boat", [0x1F6A3, 0x200D, 0x2640, 0xFE0F]),
     ("woman_running", [0x1F3C3, 0x200D, 0x2640, 0xFE0F]),
     ("woman_scientist", [0x1F469, 0x200D, 0x1F52C]),
     ("woman_shrugging", [0x1F937, 0x200D, 0x2640, 0xFE0F]),
     ("woman_singer", [0x1F469, 0x200D, 0x1F3A4]), ("woman_student", [0x1F469, 0x200D, 0x1F393]),
     ("woman_surfing", [0x1F3C4, 0x200D, 0x2640, 0xFE0F]),
     ("woman_swimming", [0x1F3CA, 0x200D, 0x2640, 0xFE0F]),
     ("woman_teacher", [0x1F469, 0x200D, 0x1F3EB]),
     ("woman_technologist", [0x1F469, 0x200D, 0x1F4BB]),
     ("woman_tipping_hand", [0x1F481, 0x200D, 0x2640, 0xFE0F]),
     ("woman_vampire", [0x1F9DB, 0x200D, 0x2640, 0xFE0F]),
     ("woman_walking", [0x1F6B6, 0x200D, 0x2640, 0xFE0F]),
     ("woman_wearing_turban", [0x1F473, 0x200D, 0x2640, 0xFE0F]),
     ("woman_with_headscarf", [0x1F9D5]), ("writing_hand", [0x270D])])]

/-- The characters of the pictograph that an index has under a name. -/
def find? (index : Index) (name : Text) : Option Text := do
  let first ← name.head?
  let entries ← index.lookup first
  let entry ← entries.find? fun e => e.1 == String.ofList name
  return entry.2.map Char.ofNat

/-! ### Tones -/

/-- The modifiers for skin tones, by what is put to a name for them. -/
def tones : List (Text × Char) :=
  [("_light_skin_tone".toList, Char.ofNat 0x1F3FB),
    ("_medium-light_skin_tone".toList, Char.ofNat 0x1F3FC),
    ("_medium_skin_tone".toList, Char.ofNat 0x1F3FD),
    ("_medium-dark_skin_tone".toList, Char.ofNat 0x1F3FE),
    ("_dark_skin_tone".toList, Char.ofNat 0x1F3FF)]

/-- The characters of a pictograph with a tone. -/
def withTone (tone : Char) : Text → Text
  | [] => []
  | c :: rest => c :: tone :: if rest.head? = some selector then rest.tail else rest

/-- The pictograph of a name that ends with a tone. -/
def findToned? (name : Text) : Option Text := do
  let (ending, tone) ← tones.find? fun t => t.1.isSuffixOf name
  let plain ← find? tonedNames (name.take (name.length - ending.length))
  return withTone tone plain

/-- The characters that a name stands for. -/
def ofName? (name : Text) : Option Text :=
  ((find? names name).or (find? tonedNames name)).or (findToned? name)

end Pictograph

end DocSnippets
